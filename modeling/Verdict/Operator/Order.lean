import Mathlib.Order.Compare
import Mathlib.Order.Lattice
import Verdict.Operator

/-!
# Operators between ordered values

What an operator says of two values in an order, whatever the values are. It is what the comparison of the values
admits (`admits_compare_eq_holds`).
-/
namespace Verdict.Operator

variable {α : Type} [LinearOrder α]

/-- Whether an operator holds between two values. Those on truth values do not. -/
def holds : Operator → α → α → Bool
  | .eq, x, y => decide (x = y)
  | .ne, x, y => decide (x ≠ y)
  | .ge, x, y => decide (y ≤ x)
  | .le, x, y => decide (x ≤ y)
  | .gt, x, y => decide (y < x)
  | .lt, x, y => decide (x < y)
  | .or, _, _ | .and, _, _ => false

theorem admits_compare_eq_holds (op : Operator) (x y : α) : op.admits (compare x y) = op.holds x y := by
  rcases lt_trichotomy x y with less | same | more
  · rw [compare_lt_iff_lt.mpr less]
    cases op <;> simp [admits, holds, less, less.le, less.ne, less.not_gt]
  · rw [compare_eq_iff_eq.mpr same]
    cases op <;> simp [admits, holds, same]
  · rw [compare_gt_iff_gt.mpr more]
    cases op <;> simp [admits, holds, more, more.le, more.ne', more.not_gt]

end Verdict.Operator
