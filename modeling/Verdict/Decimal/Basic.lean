import Verdict.Decimal.Literal

/-!
# Decimal numbers

A number is a coefficient below 2^96, a number of places of at most 28, and a sign. A literal is read digit by digit
as long as the digits fit. The first digit that does not fit rounds the number, a half away from zero, and the digits
behind it have no effect. The digits before the mark have to fit. Numbers are compared by value, so the sign of a
zero and zeros at the end do not count (`compare_eq_eq_iff`).
-/
namespace Verdict

def digitValue (c : Char) : Nat :=
  c.toNat - '0'.toNat

/-- The first coefficient that is too large, 2^96. -/
abbrev coefficientBound : Nat := 79228162514264337593543950336

/-- A number without its sign: the coefficient, of which `scale` digits stand behind the mark. -/
structure Magnitude where
  coefficient : Nat
  scale : Nat
  coefficient_lt : coefficient < coefficientBound
  scale_le : scale ≤ 28
  deriving DecidableEq

namespace Magnitude

/-- A whole number, if it fits. -/
def ofNat? (n : Nat) : Option Magnitude :=
  if h : n < coefficientBound then some ⟨n, 0, h, Nat.zero_le _⟩ else none

/-- The number with one more place, if that fits. -/
def append? (m : Magnitude) (digit : Nat) : Option Magnitude :=
  if h : m.coefficient * 10 + digit < coefficientBound ∧ m.scale < 28 then
    some ⟨m.coefficient * 10 + digit, m.scale + 1, h.1, h.2⟩
  else none

/-- The number with its last place raised by one. Where the coefficient would not fit, the number loses that place
    and is rounded to the place before it; a whole number has none to lose. -/
def raise? (m : Magnitude) : Option Magnitude :=
  if h : m.coefficient + 1 < coefficientBound then some ⟨m.coefficient + 1, m.scale, h, m.scale_le⟩
  else if m.scale = 0 then none
  else
    some ⟨(m.coefficient + 1 + 4) / 10, m.scale - 1, by have := m.coefficient_lt; omega, by have := m.scale_le; omega⟩

/-- The number with as many of the digits behind it as fit, rounded by the first one that does not. -/
def extend? (m : Magnitude) : Text → Option Magnitude
  | [] => some m
  | c :: rest =>
    match m.append? (digitValue c) with
    | some longer => longer.extend? rest
    | none => if digitValue c < 5 then some m else m.raise?

end Magnitude

structure Decimal where
  negative : Bool
  magnitude : Magnitude
  deriving DecidableEq

namespace Decimal

def ofLiteral? (literal : DecimalLiteral) : Option Decimal := do
  let whole ← Magnitude.ofNat? (Nat.ofDigitChars 10 literal.whole 0)
  let magnitude ← whole.extend? literal.fraction
  return ⟨literal.negative, magnitude⟩

/-- The number that a text spells, apart from white space around it, if there is one. -/
def ofText? (text : Text) : Option Decimal :=
  (DecimalLiteral.ofText? text).bind ofLiteral?

def numerator (d : Decimal) : Int :=
  if d.negative then -d.magnitude.coefficient else d.magnitude.coefficient

/-- The order of two numbers, once they have the same number of places. -/
def compare (a b : Decimal) : Ordering :=
  Ord.compare (a.numerator * Nat.pow 10 b.magnitude.scale) (b.numerator * Nat.pow 10 a.magnitude.scale)

theorem compare_eq_eq_iff {a b : Decimal} :
    a.compare b = .eq ↔
      a.numerator * Nat.pow 10 b.magnitude.scale = b.numerator * Nat.pow 10 a.magnitude.scale := by
  simp [compare]

end Decimal
end Verdict
