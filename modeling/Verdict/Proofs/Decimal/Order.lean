import Verdict.Proofs.Decimal.Reading
import Verdict.Proofs.Tree.Evaluation

/-!
# Comparisons of numbers

An operator between two numbers holds as it does for the numbers that are read (`Evaluator.evaluate_numbers`). These
are the ones that are written if they fit, and in the order of these if they are rounded.
-/
namespace Verdict.Evaluator

variable (evaluator : Evaluator) (positive : evaluator.config.maxDepth ≠ 0) {left right : Text}
include positive

/-- An operator between two numbers is applied to the rationals that they are read as. -/
theorem evaluate_numbers {op : Operator} (numeric : op.isLogical = false) {a b : Decimal}
    (first : Decimal.ofText? left = some a) (second : Decimal.ofText? right = some b) :
    evaluator.evaluate (Tree.printBinary left op right) = .ok (op.holds a.value b.value) := by
  have plain : ∀ {text : Text} {value : Decimal}, Decimal.ofText? text = some value → Ungrouped text := by
    intro text value read
    exact (Unmarked.of_trim (Decimal.unmarked (by simp [read]))).ungrouped
  refine evaluate_printBinary evaluator positive (plain first) (plain second) fun depth descend => ?_
  rw [← Decimal.ofText?_pad Text.isBlank_nil Text.isBlank_space] at first
  rw [← Decimal.ofText?_pad Text.isBlank_space Text.isBlank_nil] at second
  have value := outcome_ungrouped_of_numbers evaluator.config.comparison depth descend numeric first second
  rw [Decimal.admits_compare] at value
  simpa [Tree.printBinary] using value

/-- Numbers are compared in the order in which they are written, however many digits they have: a smaller one is at
    most a larger one, and not above it. Numbers that fit are compared as they are written, under each operator
    between numbers. -/
theorem evaluate_le_of_le_and_eq_holds {x y : ℚ} (first : Text.Denotes left x) (second : Text.Denotes right y)
    (acceptedLeft : (Decimal.ofText? left).isSome = true) (acceptedRight : (Decimal.ofText? right).isSome = true) :
    (x ≤ y →
      evaluator.evaluate (Tree.printBinary left .le right) = .ok true ∧
        evaluator.evaluate (Tree.printBinary left .gt right) = .ok false) ∧
      (IsRepresentable x → IsRepresentable y → ∀ op : Operator, op.isLogical = false →
        evaluator.evaluate (Tree.printBinary left op right) = .ok (op.holds x y)) := by
  obtain ⟨a, writtenLeft, rfl⟩ := first
  obtain ⟨b, writtenRight, rfl⟩ := second
  have digitsLeft := writtenLeft.isDigits_fraction
  have digitsRight := writtenRight.isDigits_fraction
  obtain ⟨d, readLeft⟩ := Option.isSome_iff_exists.mp acceptedLeft
  obtain ⟨e, readRight⟩ := Option.isSome_iff_exists.mp acceptedRight
  have fromLeft := readLeft
  have fromRight := readRight
  rw [Decimal.ofText?_of_isWritten writtenLeft] at fromLeft
  rw [Decimal.ofText?_of_isWritten writtenRight] at fromRight
  constructor
  · intro le
    have kept := Decimal.value_le_value digitsLeft digitsRight fromLeft fromRight le
    rw [evaluate_numbers evaluator positive rfl readLeft readRight,
      evaluate_numbers evaluator positive rfl readLeft readRight]
    simp [Operator.holds, kept]
  · intro fitsLeft fitsRight op numeric
    rw [evaluate_numbers evaluator positive numeric readLeft readRight,
      Decimal.value_eq_of_isRepresentable digitsLeft fromLeft fitsLeft,
      Decimal.value_eq_of_isRepresentable digitsRight fromRight fitsRight]

omit positive in
/-- The first number has one place and is rounded up, so that its coefficient does not fit any more; the second one is
    a little larger and has no place. The third and the fourth fit. -/
theorem evaluate_le_of_le_and_eq_holds_overflowing :
    let least := "7922816251426433759354395033.55".toList
    let most := "+7922816251426433759354395033,6".toList
    (default : Evaluator).evaluate (Tree.printBinary least .le most) = .ok true ∧
      (default : Evaluator).evaluate (Tree.printBinary least .gt most) = .ok false ∧
      (default : Evaluator).evaluate (Tree.printBinary "-0,10".toList .lt "-.0999".toList) = .ok true := by
  intro least most
  have first : Text.Denotes least (792281625142643375935439503355 / 100) := Text.denotes_iff.mpr (by decide +kernel)
  have second : Text.Denotes most (79228162514264337593543950336 / 10) := Text.denotes_iff.mpr (by decide +kernel)
  have third : Text.Denotes "-0,10".toList (-1 / 10) := Text.denotes_iff.mpr (by decide +kernel)
  have fourth : Text.Denotes "-.0999".toList (-999 / 10000) := Text.denotes_iff.mpr (by decide +kernel)
  obtain ⟨ordered, _⟩ :=
    evaluate_le_of_le_and_eq_holds default (by decide) first second (by decide +kernel) (by decide +kernel)
  obtain ⟨le, gt⟩ := ordered (by norm_num)
  refine ⟨le, gt, ?_⟩
  obtain ⟨_, kept⟩ :=
    evaluate_le_of_le_and_eq_holds default (by decide) third fourth (by decide +kernel) (by decide +kernel)
  rw [kept ⟨-1, 1, by norm_num, by norm_num, by norm_num⟩ ⟨-999, 4, by norm_num, by norm_num, by norm_num⟩ .lt rfl]
  decide +kernel

end Verdict.Evaluator
