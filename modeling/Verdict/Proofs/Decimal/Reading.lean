import Verdict.Proofs.Decimal.Rounding
import Verdict.Proofs.Literals

/-!
# Reading numbers

A text is read as a number exactly where it is written as one that is small enough, and the number that is read is the
one that is written wherever that has a coefficient and places that fit. Otherwise it is rounded, and the order of two
numbers is kept (`Decimal.value_le_value`).
-/
namespace Verdict

/-! ## What a text stands for -/

/-- A text is written as a number, apart from white space around it, and stands for the rational number `x`. -/
def Text.Denotes (text : Text) (x : ℚ) : Prop :=
  ∃ literal : DecimalLiteral, literal.IsWritten (Text.trim text) ∧ literal.value = x

/-- What a text stands for is the number that is read, before it is rounded. -/
theorem Text.denotes_iff {text : Text} {x : ℚ} :
    Text.Denotes text x ↔ (DecimalLiteral.ofText? text).map DecimalLiteral.value = some x := by
  simp only [Denotes, Option.map_eq_some_iff, DecimalLiteral.ofText?_eq_some_iff]

/-! ## Digits -/

theorem ofDigitChars_dropWhile_zero (text : Text) :
    Nat.ofDigitChars 10 (text.dropWhile (· = '0')) 0 = Nat.ofDigitChars 10 text 0 := by
  induction text with
  | nil => rfl
  | cons c rest ih =>
    by_cases zero : c = '0'
    · subst zero
      rw [List.dropWhile_cons_of_pos (by decide), ih, ofDigitChars_cons]
      rfl
    · rw [List.dropWhile_cons_of_neg (by simpa using zero)]

namespace DecimalLiteral

/-- The digits before the mark, as a number. -/
def wholeNumber (literal : DecimalLiteral) : ℕ :=
  Nat.ofDigitChars 10 literal.whole 0

/-- Two literals with the same sign and the same digits behind the mark, which differ in front of it by zeros only. -/
structure SameDigits (a b : DecimalLiteral) : Prop where
  negative : a.negative = b.negative
  whole : a.whole.dropWhile (· = '0') = b.whole.dropWhile (· = '0')
  fraction : a.fraction = b.fraction

variable {literal : DecimalLiteral}

theorem followedBy_fraction (small : literal.wholeNumber < coefficientBound) :
    (⟨literal.wholeNumber, 0, small, Nat.zero_le _⟩ : Magnitude).followedBy literal.fraction = literal.magnitude := by
  rw [Magnitude.followedBy, magnitude, Nat.ofDigitChars_append, Nat.zero_add]
  rfl

theorem wholeNumber_le_magnitude (digits : Text.IsDigits literal.fraction) :
    (literal.wholeNumber : ℚ) ≤ literal.magnitude := by
  have lower := (ofDigitChars_bounds digits literal.wholeNumber).1
  rw [magnitude, Nat.ofDigitChars_append, le_div_iff₀ (by positivity)]
  exact_mod_cast lower

end DecimalLiteral

namespace Decimal

variable {a b literal : DecimalLiteral} {d e : Decimal}

theorem ofLiteral?_eq (literal : DecimalLiteral) :
    ofLiteral? literal =
      if small : literal.wholeNumber < coefficientBound then
        ((⟨literal.wholeNumber, 0, small, Nat.zero_le _⟩ : Magnitude).extend? literal.fraction).map
          fun magnitude => ⟨literal.negative, magnitude⟩
      else none := by
  unfold ofLiteral? Magnitude.ofNat? DecimalLiteral.wholeNumber
  split
  · rw [Option.map_eq_bind]
    rfl
  · rfl

/-- A literal is too large if its coefficient does not fit once it is rounded to a whole number. -/
theorem ofLiteral?_eq_none_iff (digits : Text.IsDigits literal.fraction) :
    ofLiteral? literal = none ↔ (coefficientBound : ℚ) ≤ literal.magnitude + 1 / 2 := by
  have nonneg := literal.magnitude_nonneg
  have rounds : coefficientBound ≤ nearest literal.magnitude 0 ↔
      (coefficientBound : ℚ) ≤ literal.magnitude + 1 / 2 := by
    rw [nearest, pow_zero, mul_one, Nat.le_floor_iff (by positivity)]
  rw [ofLiteral?_eq]
  split
  · rename_i small
    rw [Option.map_eq_none_iff, Magnitude.extend?_eq_none_iff digits, DecimalLiteral.followedBy_fraction small, rounds]
    simp
  · rename_i large
    have whole : (coefficientBound : ℚ) ≤ literal.wholeNumber := Nat.cast_le.mpr (not_lt.mp large)
    have above := DecimalLiteral.wholeNumber_le_magnitude digits
    exact iff_of_true rfl (le_trans (whole.trans above) (by norm_num))

/-- The number that is read has the sign of the literal, and its magnitude rounded to the places that are kept. -/
theorem exists_rounded_of_ofLiteral? (digits : Text.IsDigits literal.fraction) (read : ofLiteral? literal = some d) :
    ∃ places, Keeps literal.magnitude places ∧ d.negative = literal.negative ∧
      d.magnitude.value = rounded literal.magnitude places := by
  rw [ofLiteral?_eq] at read
  split at read
  · rename_i small
    obtain ⟨magnitude, known, rfl⟩ := Option.map_eq_some_iff.mp read
    obtain ⟨places, keeps, value⟩ := Magnitude.value_of_extend? digits known
    rw [DecimalLiteral.followedBy_fraction small] at keeps value
    exact ⟨places, keeps, rfl, value⟩
  · simp at read

/-- A number whose coefficient and places fit is read as it is. -/
theorem value_eq_of_isRepresentable (digits : Text.IsDigits literal.fraction) (read : ofLiteral? literal = some d)
    (representable : IsRepresentable literal.value) : d.value = literal.value := by
  obtain ⟨places, keeps, sign, value⟩ := exists_rounded_of_ofLiteral? digits read
  rw [← literal.abs_value] at keeps value
  rw [value_eq, value, representable.rounded_eq keeps, sign, literal.abs_value]
  rfl

/-- Reading keeps the order of two numbers, whether they are rounded or not. -/
theorem value_le_value (digitsLeft : Text.IsDigits a.fraction) (digitsRight : Text.IsDigits b.fraction)
    (first : ofLiteral? a = some d) (second : ofLiteral? b = some e) (le : a.value ≤ b.value) :
    d.value ≤ e.value := by
  obtain ⟨places, keeps, signLeft, left⟩ := exists_rounded_of_ofLiteral? digitsLeft first
  obtain ⟨more, also, signRight, right⟩ := exists_rounded_of_ofLiteral? digitsRight second
  have nonnegLeft := a.magnitude_nonneg
  have nonnegRight := b.magnitude_nonneg
  by_cases bothZero : a.value = 0 ∧ b.value = 0
  · -- The signs of zeros need not be in order, but zeros are not rounded.
    have zero : IsRepresentable 0 := ⟨0, 0, by norm_num, by norm_num, by norm_num⟩
    rw [value_eq_of_isRepresentable digitsLeft first (by rw [bothZero.1]; exact zero),
      value_eq_of_isRepresentable digitsRight second (by rw [bothZero.2]; exact zero)]
    exact le
  · rw [value_eq, value_eq, left, right, signLeft, signRight]
    unfold DecimalLiteral.value at le bothZero
    cases minusLeft : a.negative with
    | false =>
      cases minusRight : b.negative with
      | false =>
        simp only [minusLeft, minusRight, Bool.false_eq_true, if_false] at le ⊢
        exact rounded_le_rounded nonnegLeft le keeps also
      | true =>
        simp only [minusLeft, minusRight, Bool.false_eq_true, if_false, if_true] at le bothZero
        exact absurd ⟨by linarith, by linarith⟩ bothZero
    | true =>
      cases minusRight : b.negative with
      | false =>
        have below := d.magnitude.value_nonneg
        have above := e.magnitude.value_nonneg
        rw [left] at below
        rw [right] at above
        simp only [Bool.false_eq_true, if_false, if_true]
        linarith
      | true =>
        simp only [minusLeft, minusRight, if_true, neg_le_neg_iff] at le ⊢
        exact rounded_le_rounded nonnegRight le also keeps

theorem ofLiteral?_eq_of_sameDigits (same : a.SameDigits b) : ofLiteral? a = ofLiteral? b := by
  have whole : Nat.ofDigitChars 10 a.whole 0 = Nat.ofDigitChars 10 b.whole 0 := by
    rw [← ofDigitChars_dropWhile_zero, same.whole, ofDigitChars_dropWhile_zero]
  rw [ofLiteral?, ofLiteral?, whole, same.fraction, same.negative]

theorem ofText?_of_isWritten {text : Text} (written : literal.IsWritten (Text.trim text)) :
    ofText? text = ofLiteral? literal := by
  rw [ofText?, DecimalLiteral.ofText?_eq_some_iff.mpr written, Option.bind_some]

/-- What is written is read if it is less than half a unit above the largest coefficient. -/
theorem isSome_ofText?_iff {text : Text} (written : literal.IsWritten (Text.trim text)) :
    (ofText? text).isSome = true ↔ |literal.value| < 2 ^ 96 - 1 / 2 := by
  rw [ofText?_of_isWritten written, ← Option.ne_none_iff_isSome, Ne,
    ofLiteral?_eq_none_iff written.isDigits_fraction, literal.abs_value, not_le, coefficientBound_cast]
  norm_num
  constructor <;> intro <;> linarith

/-- A text is read as a number exactly where it is written as one that is less than half a unit above the largest
    coefficient. What is read is the number that is written, if its coefficient and its places fit. It depends on the
    sign, on the digits behind the mark and on those before it without the zeros in front, and on nothing else that is
    written. -/
theorem ofText?_reads_denoted (text : Text) :
    ((ofText? text).isSome = true ↔ ∃ x, Text.Denotes text x ∧ |x| < 2 ^ 96 - 1 / 2) ∧
      (∀ x, Text.Denotes text x → IsRepresentable x → ∃ d, ofText? text = some d ∧ d.value = x) ∧
      (∀ (other : Text) (a b : DecimalLiteral), a.IsWritten (Text.trim text) → b.IsWritten (Text.trim other) →
        a.SameDigits b → ofText? text = ofText? other) := by
  refine ⟨?_, ?_, ?_⟩
  · constructor
    · intro isSome
      obtain ⟨literal, written⟩ := exists_isWritten isSome
      exact ⟨literal.value, ⟨literal, written, rfl⟩, (isSome_ofText?_iff written).mp isSome⟩
    · rintro ⟨x, ⟨literal, written, rfl⟩, small⟩
      exact (isSome_ofText?_iff written).mpr small
  · rintro x ⟨literal, written, rfl⟩ representable
    obtain ⟨d, read⟩ := Option.isSome_iff_exists.mp ((isSome_ofText?_iff written).mpr representable.abs_lt)
    refine ⟨d, read, ?_⟩
    rw [ofText?_of_isWritten written] at read
    exact value_eq_of_isRepresentable written.isDigits_fraction read representable
  · intro other a b first second same
    rw [ofText?_of_isWritten first, ofText?_of_isWritten second, ofLiteral?_eq_of_sameDigits same]

/-- A sign, zeros in front, a comma and white space make no difference, and digits that do not fit decide whether the
    largest number is accepted. -/
theorem ofText?_reads_denoted_padded :
    (∃ d, ofText? " +007,50\t".toList = some d ∧ d.value = 15 / 2) ∧
      ofText? " +007,50\t".toList = ofText? "7.50".toList ∧
      (ofText? "79228162514264337593543950335.49999999999999999999999999999".toList).isSome = true := by
  have padded : (⟨false, "007".toList, "50".toList⟩ : DecimalLiteral).IsWritten (Text.trim " +007,50\t".toList) :=
    DecimalLiteral.ofText?_eq_some_iff.mp (by decide +kernel)
  have plain : (⟨false, "7".toList, "50".toList⟩ : DecimalLiteral).IsWritten (Text.trim "7.50".toList) :=
    DecimalLiteral.ofText?_eq_some_iff.mp (by decide +kernel)
  have largest : Text.Denotes "79228162514264337593543950335.49999999999999999999999999999".toList
      (2 ^ 96 - 1 / 2 - 1 / 10 ^ 29) := Text.denotes_iff.mpr (by decide +kernel)
  obtain ⟨_, reads, depends⟩ := ofText?_reads_denoted " +007,50\t".toList
  exact ⟨reads (15 / 2) ⟨_, padded, by decide +kernel⟩ ⟨75, 1, by decide, by decide, by norm_num⟩,
    depends _ _ _ padded plain ⟨rfl, by decide, rfl⟩,
    (ofText?_reads_denoted _).1.mpr ⟨_, largest, by decide +kernel⟩⟩

end Decimal
end Verdict
