import Verdict.Text.Digits

/-!
# Numbers in JSON

A number is written as an integer without needless zeros, perhaps with a sign, a fraction and an exponent. The value
is kept of a number that is written with digits alone, whatever its size; of the others it only matters that they are
numbers. Each part is cut off the front of the text, and the parts and the text behind them are the whole text.
-/
namespace Verdict.Json

/-- A minus at the front of a text, and the text behind it. -/
def scanMinus : Text → Text × Text
  | '-' :: rest => (['-'], rest)
  | text => ([], text)

def scanSign : Text → Text × Text
  | '+' :: rest => (['+'], rest)
  | '-' :: rest => (['-'], rest)
  | text => ([], text)

/-- A fraction at the front of a text, which is a point and digits, and the text behind it. -/
def scanFraction? : Text → Option (Text × Text)
  | '.' :: rest =>
    let (digits, after) := Text.scanDigits rest
    if digits = [] then none else some ('.' :: digits, after)
  | text => some ([], text)

def IsExponentMark (c : Char) : Prop :=
  c = 'e' ∨ c = 'E'

instance (c : Char) : Decidable (IsExponentMark c) :=
  inferInstanceAs (Decidable (c = 'e' ∨ c = 'E'))

/-- An exponent at the front of a text, which is a letter, perhaps a sign, and digits, and the text behind it. -/
def scanExponent? : Text → Option (Text × Text)
  | [] => some ([], [])
  | c :: rest =>
    if IsExponentMark c then
      let (sign, unsigned) := scanSign rest
      let (digits, after) := Text.scanDigits unsigned
      if digits = [] then none else some (c :: sign ++ digits, after)
    else some ([], c :: rest)

/-- Digits of an integer: no digit stands behind a zero at the front. -/
def IsInteger (digits : Text) : Prop :=
  digits ≠ [] ∧ (digits.head? = some '0' → digits = ['0'])

instance (digits : Text) : Decidable (IsInteger digits) :=
  inferInstanceAs (Decidable (digits ≠ [] ∧ (digits.head? = some '0' → digits = ['0'])))

/-- The value of a number with these parts, if it is written with digits alone. -/
def naturalOf (sign digits fraction exponent : Text) : Option Nat :=
  if sign = [] ∧ fraction = [] ∧ exponent = [] then some (Nat.ofDigitChars 10 digits 0) else none

/-- The number at the front of a text, with its value if it is written with digits alone, and the text behind it. -/
def scanNumber? (text : Text) : Option (Option Nat × Text) :=
  let (sign, unsigned) := scanMinus text
  let (digits, rest) := Text.scanDigits unsigned
  if IsInteger digits then
    match scanFraction? rest with
    | none => none
    | some (fraction, rest) =>
      match scanExponent? rest with
      | none => none
      | some (exponent, rest) => some (naturalOf sign digits fraction exponent, rest)
  else none

theorem scanMinus_append (text : Text) : (scanMinus text).1 ++ (scanMinus text).2 = text := by
  unfold scanMinus; split <;> rfl

theorem scanSign_append (text : Text) : (scanSign text).1 ++ (scanSign text).2 = text := by
  unfold scanSign; split <;> rfl

theorem eq_append_of_scanFraction? {text fraction rest : Text} (scanned : scanFraction? text = some (fraction, rest)) :
    text = fraction ++ rest := by
  unfold scanFraction? at scanned
  split at scanned
  · dsimp only at scanned
    split at scanned
    · simp at scanned
    · obtain ⟨rfl, rfl⟩ := Prod.mk.inj (Option.some.inj scanned)
      rw [List.cons_append, Text.scanDigits_append]
  · obtain ⟨rfl, rfl⟩ := Prod.mk.inj (Option.some.inj scanned)
    rfl

theorem eq_append_of_scanExponent? {text exponent rest : Text} (scanned : scanExponent? text = some (exponent, rest)) :
    text = exponent ++ rest := by
  unfold scanExponent? at scanned
  split at scanned
  · obtain ⟨rfl, rfl⟩ := Prod.mk.inj (Option.some.inj scanned)
    rfl
  · split at scanned
    · dsimp only at scanned
      split at scanned
      · simp at scanned
      · obtain ⟨rfl, rfl⟩ := Prod.mk.inj (Option.some.inj scanned)
        rw [List.append_assoc, Text.scanDigits_append, List.cons_append, scanSign_append]
    · obtain ⟨rfl, rfl⟩ := Prod.mk.inj (Option.some.inj scanned)
      rfl

theorem scanNumber?_eq_some_iff {text rest : Text} {value : Option Nat} :
    scanNumber? text = some (value, rest) ↔
      IsInteger (Text.scanDigits (scanMinus text).2).1 ∧
        ∃ fraction exponent between,
          scanFraction? (Text.scanDigits (scanMinus text).2).2 = some (fraction, between) ∧
            scanExponent? between = some (exponent, rest) ∧
              value = naturalOf (scanMinus text).1 (Text.scanDigits (scanMinus text).2).1 fraction exponent := by
  unfold scanNumber?
  dsimp only
  constructor
  · intro scanned
    split at scanned
    · rename_i integer
      split at scanned
      · simp at scanned
      · rename_i fraction between first
        split at scanned
        · simp at scanned
        · rename_i exponent last second
          obtain ⟨rfl, rfl⟩ := Prod.mk.inj (Option.some.inj scanned)
          exact ⟨integer, fraction, exponent, between, first, second, rfl⟩
    · simp at scanned
  · rintro ⟨integer, fraction, exponent, between, first, second, rfl⟩
    simp [integer, first, second]

theorem length_lt_of_scanNumber? {text rest : Text} {value : Option Nat}
    (scanned : scanNumber? text = some (value, rest)) : rest.length < text.length := by
  obtain ⟨integer, fraction, exponent, between, first, second, _⟩ := scanNumber?_eq_some_iff.mp scanned
  have positive := List.length_pos_iff.mpr integer.1
  have whole := congrArg List.length (scanMinus_append text)
  have digits := congrArg List.length (Text.scanDigits_append (scanMinus text).2)
  have behind := congrArg List.length (eq_append_of_scanFraction? first)
  have last := congrArg List.length (eq_append_of_scanExponent? second)
  rw [List.length_append] at whole digits behind last
  omega

end Verdict.Json
