import Verdict.Decimal.Literal

/-!
# How numbers are written

A literal is read from a text exactly where the text is the literal as it is written, apart from white space around it
(`DecimalLiteral.ofText?_eq_some_iff`).
-/
namespace Verdict.DecimalLiteral

/-- A sign as it is written. A number without one is not negative. -/
inductive Sign : (negative : Bool) → Text → Prop where
  | none : Sign false []
  | plus : Sign false ['+']
  | minus : Sign true ['-']

/-- The digits behind the mark as they are written. Where there are none there is no mark either. -/
inductive Behind : (fraction : Text) → Text → Prop where
  | nothing : Behind [] []
  | digits {mark : Char} {fraction : Text} :
    IsMark mark → fraction ≠ [] → Text.IsDigits fraction → Behind fraction (mark :: fraction)

/-- How a literal is written: perhaps a sign, the digits before the mark, and the digits behind it. At least one
    digit stands there. -/
structure IsWritten (literal : DecimalLiteral) (text : Text) : Prop where
  whole : Text.IsDigits literal.whole
  anyDigit : literal.whole ≠ [] ∨ literal.fraction ≠ []
  parts : ∃ sign behind, Sign literal.negative sign ∧ Behind literal.fraction behind ∧
    text = sign ++ (literal.whole ++ behind)

variable {literal : DecimalLiteral} {text unsigned whole fraction behind : Text} {negative : Bool}

theorem Behind.isDigits (shape : Behind fraction behind) : Text.IsDigits fraction := by
  cases shape with
  | nothing => simp [Text.IsDigits]
  | digits _ _ digits => exact digits

theorem IsWritten.isDigits_fraction (written : literal.IsWritten text) : Text.IsDigits literal.fraction := by
  obtain ⟨_, _, _, isBehind, _⟩ := written.parts
  exact isBehind.isDigits

/-- A literal ends with a digit, and it has no characters but signs, marks and digits. -/
theorem IsWritten.exists_digits (written : literal.IsWritten text) :
    ∃ front digits, text = front ++ digits ∧ (∀ c ∈ front, c ∈ ['+', '-', '.', ','] ∨ c.isDigit = true) ∧
      digits ≠ [] ∧ Text.IsDigits digits := by
  obtain ⟨negative, whole, fraction⟩ := literal
  obtain ⟨sign, behind, isSign, isBehind, rfl⟩ := written.parts
  have signs : ∀ c ∈ sign, c ∈ ['+', '-', '.', ','] := by cases isSign <;> simp
  cases isBehind with
  | nothing =>
    exact ⟨sign, whole, by simp, fun c mem => .inl (signs c mem), by simpa using written.anyDigit, written.whole⟩
  | @digits mark _ isMark nonempty digits =>
    refine ⟨sign ++ whole ++ [mark], fraction, by simp, fun c mem => ?_, nonempty, digits⟩
    simp only [List.mem_append, List.mem_singleton] at mem
    rcases mem with (mem | mem) | rfl
    · exact .inl (signs c mem)
    · exact .inr (written.whole c mem)
    · rcases isMark with rfl | rfl <;> simp

/-! ## Reading what is written -/

theorem exists_sign_of_readSign (signed : readSign text = (negative, unsigned)) :
    ∃ sign, Sign negative sign ∧ text = sign ++ unsigned := by
  unfold readSign at signed
  split at signed
  · obtain ⟨rfl, rfl⟩ := Prod.mk.inj signed
    exact ⟨['-'], .minus, rfl⟩
  · obtain ⟨rfl, rfl⟩ := Prod.mk.inj signed
    exact ⟨['+'], .plus, rfl⟩
  · obtain ⟨rfl, rfl⟩ := Prod.mk.inj signed
    exact ⟨[], .none, rfl⟩

/-- A sign ends where no other sign follows. -/
theorem Sign.readSign_append {sign : Text} (signed : Sign negative sign)
    (stop : ∀ c ∈ unsigned.head?, c ≠ '-' ∧ c ≠ '+') : readSign (sign ++ unsigned) = (negative, unsigned) := by
  cases signed with
  | plus => rfl
  | minus => rfl
  | none =>
    rw [List.nil_append]
    unfold readSign
    split
    · exact absurd rfl (stop '-' rfl).1
    · exact absurd rfl (stop '+' rfl).2
    · rfl

theorem readUnsigned?_eq_some_iff_behind :
    readUnsigned? text = some (whole, fraction) ↔
      Text.IsDigits whole ∧ (whole ≠ [] ∨ fraction ≠ []) ∧
        ∃ behind, Behind fraction behind ∧ text = whole ++ behind := by
  rw [readUnsigned?_eq_some_iff]
  constructor
  · rintro ⟨first, last, ⟨nonempty, rfl, rfl⟩ | ⟨nonempty, mark, isMark, rfl⟩⟩
    · exact ⟨first, .inl nonempty, [], .nothing, by simp⟩
    · exact ⟨first, .inr nonempty, mark :: fraction, .digits isMark nonempty last, rfl⟩
  · rintro ⟨first, nonempty, behind, shape, rfl⟩
    cases shape with
    | nothing => exact ⟨first, by simp [Text.IsDigits], .inl ⟨by simpa using nonempty, rfl, by simp⟩⟩
    | digits isMark other last => exact ⟨first, last, .inr ⟨other, _, isMark, rfl⟩⟩

/-- A literal begins with a digit or with a mark, if not with a sign. -/
theorem IsWritten.head?_ne (written : literal.IsWritten text) (shape : Behind literal.fraction behind) :
    ∀ c ∈ (literal.whole ++ behind).head?, c ≠ '-' ∧ c ≠ '+' := by
  obtain ⟨negative, whole, fraction⟩ := literal
  intro c first
  have digitOrMark : c.isDigit = true ∨ IsMark c := by
    cases whole with
    | cons d rest =>
      obtain rfl : d = c := by simpa using first
      exact .inl (written.whole d (by simp))
    | nil =>
      cases shape with
      | nothing => simp at first
      | digits isMark _ _ =>
        obtain rfl := Option.some.inj first
        exact .inr isMark
  constructor
  · rintro rfl
    revert digitOrMark
    decide
  · rintro rfl
    revert digitOrMark
    decide

/-- A literal is read exactly where a text is the literal as it is written, apart from white space around it. -/
theorem ofText?_eq_some_iff : ofText? text = some literal ↔ literal.IsWritten (Text.trim text) := by
  constructor
  · intro read
    unfold ofText? at read
    cases signed : readSign (Text.trim text) with
    | mk negative unsigned =>
      simp only [signed] at read
      split at read
      · rename_i whole fraction parts
        obtain rfl := Option.some.inj read
        obtain ⟨sign, isSign, shape⟩ := exists_sign_of_readSign signed
        obtain ⟨digits, nonempty, behind, isBehind, rfl⟩ := readUnsigned?_eq_some_iff_behind.mp parts
        exact ⟨digits, nonempty, sign, behind, isSign, isBehind, shape⟩
      · simp at read
  · intro written
    obtain ⟨sign, behind, isSign, isBehind, shape⟩ := written.parts
    have signed : readSign (Text.trim text) = (literal.negative, literal.whole ++ behind) := by
      rw [shape]
      exact isSign.readSign_append (written.head?_ne isBehind)
    have parts : readUnsigned? (literal.whole ++ behind) = some (literal.whole, literal.fraction) :=
      readUnsigned?_eq_some_iff_behind.mpr ⟨written.whole, written.anyDigit, behind, isBehind, rfl⟩
    simp [ofText?, signed, parts]

end Verdict.DecimalLiteral
