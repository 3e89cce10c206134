import Verdict.Proofs.Decimal.Order
import Verdict.Proofs.Equality

/-!
# Orders and equalities

The orders between two texts and the equalities of them agree. Texts that are numbers are in exactly one of three
relations, and each operator says whether that relation is one of its own. Where one of the texts is no number, every
order fails because of that text, and the equalities do not compare numbers.
-/
namespace Verdict

/-- A text that is a single operand: it is not blank, and no parenthesis and no operator stands in it. -/
structure Single (text : Text) : Prop where
  notBlank : ¬ Text.IsBlank text
  plain : Ungrouped text
  free : ¬ Operator.OccursIn text

theorem Single.comparand {text : Text} (single : Single text) : Comparand text :=
  ⟨single.notBlank, single.plain, fun op _ inside => single.free ⟨op, inside⟩⟩

theorem Single.split {left right : Text} (one : Single left) (two : Single right) (op : Operator) :
    Split.first? (Tree.printBinary left op right) = some ⟨op, Text.trim left, Text.trim right⟩ := by
  obtain ⟨looser, tighter, order⟩ := List.append_of_mem op.mem_precedence
  exact Split.first?_printBinary order one.notBlank two.notBlank (fun other _ inside => one.free ⟨other, inside⟩)
    fun other _ inside => two.free ⟨other, inside⟩

theorem Operand.ofText_ne_decimal {text : Text} (unread : Decimal.ofText? text = none) (value : Decimal) :
    ofText text ≠ .decimal value := by
  unfold ofText
  split
  · simp
  · simp [unread]

/-- The values of all operators between two numbers, of which the first may be less than the second, equal to it or
    more. -/
structure InOrder (value : Operator → Except EvalError Bool) (less equal more : Bool) : Prop where
  one : [less, equal, more].count true = 1
  lt : value .lt = .ok less
  eq : value .eq = .ok equal
  gt : value .gt = .ok more
  le : value .le = .ok !more
  ge : value .ge = .ok !less
  ne : value .ne = .ok !equal

/-- Any two numbers are in one of the three relations. -/
theorem InOrder.of_holds {α : Type} [LinearOrder α] {value : Operator → Except EvalError Bool} {x y : α}
    (known : ∀ op : Operator, op.isLogical = false → value op = .ok (op.holds x y)) :
    InOrder value (decide (x < y)) (decide (x = y)) (decide (y < x)) where
  one := by
    rcases lt_trichotomy x y with less | equal | more
    · simp [less, less.ne, less.not_gt]
    · simp [equal]
    · simp [more, more.ne', more.not_gt]
  lt := known .lt rfl
  eq := known .eq rfl
  gt := known .gt rfl
  le := by simp [known .le rfl, Operator.holds, ← not_lt]
  ge := by simp [known .ge rfl, Operator.holds, ← not_lt]
  ne := by simp [known .ne rfl, Operator.holds]

namespace Evaluator

variable (evaluator : Evaluator) (positive : evaluator.config.maxDepth ≠ 0) {left right : Text}
include positive

/-- An order between single operands reads the number of the left one and then the number of the right one. -/
theorem evaluate_order (one : Single left) (two : Single right) {op : Operator} (relational : op.isRelational = true) :
    evaluator.evaluate (Tree.printBinary left op right) = do
      let a ← number (Text.trim left)
      let b ← number (Text.trim right)
      return op.admits (a.compare b) := by
  rw [evaluate_of_relational evaluator positive (Tree.ungrouped_printBinary one.plain op two.plain)
    (one.split two op) relational, relation,
    if_neg (Operator.not_occursIn_sides one.free two.free)]

/-- An order fails because of the first of its operands that is no number. -/
theorem evaluate_order_of_unread (one : Single left) (two : Single right) {side : Text}
    (first : [Text.trim left, Text.trim right].find? (fun text => (Decimal.ofText? text).isNone) = some side)
    {op : Operator} (relational : op.isRelational = true) :
    evaluator.evaluate (Tree.printBinary left op right) = .error (.numericConversion side) := by
  rw [evaluate_order evaluator positive one two relational]
  unfold number
  cases readLeft : Decimal.ofText? (Text.trim left) with
  | none =>
    obtain rfl : Text.trim left = side := by simpa [readLeft] using first
    rfl
  | some a =>
    cases readRight : Decimal.ofText? (Text.trim right) with
    | none =>
      obtain rfl : Text.trim right = side := by simpa [readLeft, readRight] using first
      rfl
    | some b => simp [readLeft, readRight] at first

/-- Between two single operands all orders and equalities have the values of one of the three relations, or every
    order fails because of the first operand that is no number; the equality is then not one of numbers. Among numbers
    that are at most others the relation passes on. -/
theorem inOrder_or_numericConversion_and_le_trans :
    (∀ {left right : Text}, Single left → Single right →
      let value := fun op => evaluator.evaluate (Tree.printBinary left op right)
      let first := Text.trim left
      let second := Text.trim right
      (∃ less equal more, InOrder value less equal more) ∨
        ∃ side, [first, second].find? (fun text => (Decimal.ofText? text).isNone) = some side ∧
          (∀ op : Operator, op.isRelational = true → value op = .error (.numericConversion side)) ∧
          value .eq = Operand.equals evaluator.config.comparison (Tree.printBinary left .eq right) .eq
            (Operand.ofText first) (Operand.ofText second) ∧
          ∀ a b, ¬ (Operand.ofText first = .decimal a ∧ Operand.ofText second = .decimal b)) ∧
      ∀ {a b c : Text}, (Decimal.ofText? a).isSome = true → (Decimal.ofText? b).isSome = true →
        (Decimal.ofText? c).isSome = true → evaluator.evaluate (Tree.printBinary a .le b) = .ok true →
        evaluator.evaluate (Tree.printBinary b .le c) = .ok true →
        evaluator.evaluate (Tree.printBinary a .le c) = .ok true := by
  refine ⟨fun {left right} one two => ?_, fun {a b c} readA readB readC below above => ?_⟩
  · intro value first second
    cases found : [first, second].find? (fun text => (Decimal.ofText? text).isNone) with
    | none =>
      left
      have read : (Decimal.ofText? left).isSome = true ∧ (Decimal.ofText? right).isSome = true := by
        simpa [first, second, Decimal.ofText?_trim, Option.isSome_iff_ne_none] using found
      obtain ⟨a, readLeft⟩ := Option.isSome_iff_exists.mp read.1
      obtain ⟨b, readRight⟩ := Option.isSome_iff_exists.mp read.2
      exact ⟨_, _, _, .of_holds fun op numeric => evaluate_numbers evaluator positive numeric readLeft readRight⟩
    | some side =>
      right
      refine ⟨side, rfl, fun op => evaluate_order_of_unread evaluator positive one two found, ?_, fun a b both => ?_⟩
      · exact (evaluate_eq evaluator positive one.comparand two.comparand).trans
          (evaluator.outcome_compared_of_leaves one.free .eq two.free)
      · have unread := List.find?_some found
        rcases List.mem_pair.mp (List.mem_of_find?_eq_some found) with rfl | rfl
        · exact Operand.ofText_ne_decimal (by simpa using unread) a both.1
        · exact Operand.ofText_ne_decimal (by simpa using unread) b both.2
  · obtain ⟨x, readA⟩ := Option.isSome_iff_exists.mp readA
    obtain ⟨y, readB⟩ := Option.isSome_iff_exists.mp readB
    obtain ⟨z, readC⟩ := Option.isSome_iff_exists.mp readC
    rw [evaluate_numbers evaluator positive rfl readA readB] at below
    rw [evaluate_numbers evaluator positive rfl readB readC] at above
    rw [evaluate_numbers evaluator positive rfl readA readC]
    have below : x.value ≤ y.value := by simpa [Operator.holds] using below
    have above : y.value ≤ z.value := by simpa [Operator.holds] using above
    simpa [Operator.holds] using below.trans above

omit positive in
/-- A text that begins with `=` is named before a number that is too large. Zeros are in one relation whatever their
    signs are. -/
theorem inOrder_or_numericConversion_and_le_trans_sign :
    let sign := "=1 ".toList
    let large := "79228162514264337593543950336".toList
    let zero := "-0,0".toList
    (∀ op : Operator, op.isRelational = true →
      (default : Evaluator).evaluate (Tree.printBinary sign op large) = .error (.numericConversion "=1".toList)) ∧
      (∃ less equal more, InOrder (fun op => (default : Evaluator).evaluate (Tree.printBinary zero op ['0']))
        less equal more) ∧
      (default : Evaluator).evaluate (Tree.printBinary zero .le ['1']) = .ok true := by
  intro sign large zero
  have single : ∀ text ∈ [sign, large, zero, ['0'], ['1']], Single text := by
    intro text mem
    refine ⟨?_, ?_, ?_⟩
    · revert text
      decide
    · revert text
      decide
    · rw [← Operator.occursIn_iff]
      revert text
      decide
  have unread : [Text.trim sign, Text.trim large].find? (fun text => (Decimal.ofText? text).isNone) =
      some "=1".toList := by decide +kernel
  have failed : (default : Evaluator).evaluate (Tree.printBinary sign .lt large) =
      .error (.numericConversion "=1".toList) := by decide +kernel
  have read : [Text.trim zero, ['0']].find? (fun text => (Decimal.ofText? text).isNone) = none := by decide +kernel
  obtain ⟨pairs, trans⟩ := inOrder_or_numericConversion_and_le_trans default (by decide)
  refine ⟨fun op relational => ?_, ?_, ?_⟩
  · rcases pairs (single sign (by simp)) (single large (by simp)) with ⟨_, _, _, order⟩ | ⟨side, found, refused, _⟩
    · exact absurd order.lt (by simp [failed])
    · obtain rfl := Option.some.inj (unread.symm.trans found)
      exact refused op relational
  · rcases pairs (single zero (by simp)) (single ['0'] (by simp)) with order | ⟨side, found, _⟩
    · exact order
    · exact absurd (read.symm.trans found) (by simp)
  · exact @trans zero ['0'] ['1'] (by decide +kernel) (by decide +kernel) (by decide +kernel) (by decide +kernel)
      (by decide +kernel)

end Evaluator
end Verdict
