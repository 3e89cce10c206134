import Mathlib.Algebra.Order.Field.Basic
import Mathlib.Algebra.Order.Ring.Rat
import Mathlib.Data.Nat.Cast.Order.Field
import Mathlib.Order.Compare
import Mathlib.Tactic.Positivity
import Verdict.Decimal.Basic
import Verdict.Operator.Order

/-!
# Numbers as rationals

A written number stands for a rational number: its digits as one whole number, divided by ten for each digit behind
the mark. Numbers are compared as the rationals that they are (`Decimal.compare_eq`), so an operator between two numbers
holds as it does between these (`Decimal.admits_compare`).
-/
namespace Verdict

/-! ## What literals stand for -/

namespace DecimalLiteral

/-- The literal without its sign, as a rational number. -/
def magnitude (literal : DecimalLiteral) : ℚ :=
  Nat.ofDigitChars 10 (literal.whole ++ literal.fraction) 0 / 10 ^ literal.fraction.length

/-- The rational number that a literal stands for. -/
def value (literal : DecimalLiteral) : ℚ :=
  if literal.negative then -literal.magnitude else literal.magnitude

theorem magnitude_nonneg (literal : DecimalLiteral) : 0 ≤ literal.magnitude := by
  unfold magnitude
  positivity

theorem abs_value (literal : DecimalLiteral) : |literal.value| = literal.magnitude := by
  unfold value
  split
  · rw [abs_neg, abs_of_nonneg literal.magnitude_nonneg]
  · exact abs_of_nonneg literal.magnitude_nonneg

end DecimalLiteral

/-! ## What numbers are -/

/-- The rational number that a coefficient and its places are. -/
def Magnitude.value (m : Magnitude) : ℚ :=
  m.coefficient / 10 ^ m.scale

theorem Magnitude.value_nonneg (m : Magnitude) : 0 ≤ m.value := by
  unfold value
  positivity

namespace Decimal

/-- The rational number that a number is. -/
def value (d : Decimal) : ℚ :=
  d.numerator / 10 ^ d.magnitude.scale

theorem value_eq (d : Decimal) : d.value = if d.negative then -d.magnitude.value else d.magnitude.value := by
  unfold value numerator Magnitude.value
  split
  · push_cast
    rw [neg_div]
  · rfl

theorem value_lt_iff {a b : Decimal} :
    a.value < b.value ↔
      a.numerator * Nat.pow 10 b.magnitude.scale < b.numerator * Nat.pow 10 a.magnitude.scale := by
  unfold value
  rw [div_lt_div_iff₀ (by positivity) (by positivity), Nat.pow_eq, Nat.pow_eq]
  exact_mod_cast Iff.rfl

/-- Numbers are compared as the rationals that they are. -/
theorem compare_eq (a b : Decimal) : a.compare b = Ord.compare a.value b.value := by
  unfold compare
  rcases lt_trichotomy a.value b.value with less | same | more
  · rw [compare_lt_iff_lt.mpr less]
    exact compare_lt_iff_lt.mpr (value_lt_iff.mp less)
  · rw [compare_eq_iff_eq.mpr same]
    -- Neither side is less than the other one.
    refine compare_eq_iff_eq.mpr (le_antisymm (not_lt.mp fun more => ?_) (not_lt.mp fun less => ?_))
    · exact absurd (value_lt_iff.mpr more) (by simp [same])
    · exact absurd (value_lt_iff.mpr less) (by simp [same])
  · rw [compare_gt_iff_gt.mpr more]
    exact compare_gt_iff_gt.mpr (value_lt_iff.mp more)

/-- An operator between two numbers holds as it does between the rationals that they are. -/
theorem admits_compare (op : Operator) (a b : Decimal) : op.admits (a.compare b) = op.holds a.value b.value := by
  rw [compare_eq, Operator.admits_compare_eq_holds]

end Decimal
end Verdict
