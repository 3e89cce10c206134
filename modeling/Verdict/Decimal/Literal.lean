import Verdict.Text.Digits
import Verdict.Text.Whitespace

/-!
# Decimal literals

How a number is written: perhaps a sign, digits, and perhaps a fraction behind a point or a comma. There is at least
one digit in all, and at least one behind the mark. Digits are those of ASCII.
-/
namespace Verdict

/-- A written number: its sign, and the digits before and behind the mark. -/
structure DecimalLiteral where
  negative : Bool
  whole : Text
  fraction : Text
  deriving DecidableEq, Repr

namespace DecimalLiteral

def IsMark (c : Char) : Prop :=
  c = '.' ∨ c = ','

instance (c : Char) : Decidable (IsMark c) :=
  inferInstanceAs (Decidable (c = '.' ∨ c = ','))

/-- The sign in front of a text, and the text behind it. -/
def readSign : Text → Bool × Text
  | '-' :: rest => (true, rest)
  | '+' :: rest => (false, rest)
  | text => (false, text)

/-- The digits before the mark and the digits behind it, if that is all there is. -/
def readUnsigned? (text : Text) : Option (Text × Text) :=
  match Text.scanDigits text with
  | (whole, []) => if whole = [] then none else some (whole, [])
  | (whole, mark :: fraction) =>
    if IsMark mark ∧ fraction ≠ [] ∧ Text.IsDigits fraction then some (whole, fraction) else none

/-- The number that a text spells, apart from white space around it. -/
def ofText? (text : Text) : Option DecimalLiteral :=
  let (negative, unsigned) := readSign (Text.trim text)
  match readUnsigned? unsigned with
  | some (whole, fraction) => some ⟨negative, whole, fraction⟩
  | none => none

theorem readUnsigned?_eq_some_iff {text whole fraction : Text} :
    readUnsigned? text = some (whole, fraction) ↔
      Text.IsDigits whole ∧ Text.IsDigits fraction ∧
        (whole ≠ [] ∧ fraction = [] ∧ text = whole ∨
          fraction ≠ [] ∧ ∃ mark, IsMark mark ∧ text = whole ++ mark :: fraction) := by
  constructor
  · intro read
    unfold readUnsigned? at read
    split at read
    · rename_i digits scanned
      obtain ⟨isDigits, _, shape⟩ := Text.scanDigits_eq_iff.mp scanned
      split at read
      · simp at read
      · rename_i nonempty
        obtain ⟨rfl, rfl⟩ := Prod.mk.inj (Option.some.inj read)
        exact ⟨isDigits, by simp [Text.IsDigits], .inl ⟨nonempty, rfl, by simpa using shape⟩⟩
    · rename_i digits mark tail scanned
      obtain ⟨isDigits, _, shape⟩ := Text.scanDigits_eq_iff.mp scanned
      split at read
      · rename_i good
        obtain ⟨rfl, rfl⟩ := Prod.mk.inj (Option.some.inj read)
        exact ⟨isDigits, good.2.2, .inr ⟨good.2.1, mark, good.1, shape⟩⟩
      · simp at read
  · rintro ⟨isDigits, fractionDigits, ⟨nonempty, rfl, rfl⟩ | ⟨nonempty, mark, isMark, rfl⟩⟩
    · have scanned : Text.scanDigits text = (text, []) :=
        Text.scanDigits_eq_iff.mpr ⟨isDigits, by simp [Text.NoDigitFirst], by simp⟩
      simp [readUnsigned?, scanned, nonempty]
    · have stop : mark.isDigit = false := by rcases isMark with rfl | rfl <;> decide
      have scanned : Text.scanDigits (whole ++ mark :: fraction) = (whole, mark :: fraction) :=
        Text.scanDigits_eq_iff.mpr ⟨isDigits, by simp [Text.NoDigitFirst, stop], rfl⟩
      simp [readUnsigned?, scanned, isMark, nonempty, fractionDigits]

end DecimalLiteral
end Verdict
