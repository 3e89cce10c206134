import Mathlib.Data.Int.Order.Basic
import Verdict.Brackets
import Verdict.Evaluator
import Verdict.Operator.Order

/-!
# Expression trees

Expressions in which every operand of an operator on truth values stands in parentheses. A tree is written down
with its parentheses (`Tree.print`), and it has a value by recursion on its parts (`Tree.value`), which asks
for no precedence and no text.
-/
namespace Verdict

/-- An expression with its structure. -/
inductive Tree where
  | truth (spelling : Boolean.Spelling)
  /-- Two whole numbers under an equality or an order. -/
  | numbers (op : Operator) (left right : Int)
  /-- Two strings, said to be equal or said to differ. -/
  | strings (equal : Bool) (left right : Text)
  | not (inner : Tree)
  | binary (op : Operator) (left right : Tree)
  deriving Repr

namespace Tree

/-- An operator between numbers. -/
def IsNumeric (op : Operator) : Prop :=
  op.isLogical = false

/-- An operator between truth values. -/
def IsTruthful (op : Operator) : Prop :=
  op.isRelational = false

/-- A text that may stand in a string: without parentheses and without operators. -/
def IsPlain (text : Text) : Prop :=
  Ungrouped text ∧ ¬ Operator.OccursIn text

/-- The truth values are written as such, the numbers are small enough, the operators fit their operands, and the
    strings are plain. -/
def IsValid : Tree → Prop
  | .truth spelling => spelling.IsValid
  | .numbers op left right =>
    IsNumeric op ∧ left.natAbs < coefficientBound ∧ right.natAbs < coefficientBound
  | .strings _ left right => IsPlain left ∧ IsPlain right
  | .not inner => inner.IsValid
  | .binary op left right => IsTruthful op ∧ left.IsValid ∧ right.IsValid

instance : DecidablePred IsNumeric :=
  fun op => inferInstanceAs (Decidable (op.isLogical = false))

instance : DecidablePred IsTruthful :=
  fun op => inferInstanceAs (Decidable (op.isRelational = false))

instance : DecidablePred IsPlain := fun text =>
  have : Decidable (Operator.OccursIn text) := decidable_of_iff _ Operator.occursIn_iff
  inferInstanceAs (Decidable (Ungrouped text ∧ ¬ Operator.OccursIn text))

instance decidableIsValid : DecidablePred IsValid
  | .truth spelling => inferInstanceAs (Decidable spelling.IsValid)
  | .numbers _ _ _ => inferInstanceAs (Decidable (_ ∧ _ ∧ _))
  | .strings _ _ _ => inferInstanceAs (Decidable (_ ∧ _))
  | .not inner => decidableIsValid inner
  | .binary op left right =>
    have := decidableIsValid left
    have := decidableIsValid right
    inferInstanceAs (Decidable (IsTruthful op ∧ left.IsValid ∧ right.IsValid))

/-- The value of a tree, with strings compared in one way. -/
def value (mode : Comparison) : Tree → Bool
  | .truth spelling => spelling.value
  | .numbers op left right => op.holds left right
  | .strings equal left right => mode.equals left right == equal
  | .not inner => !inner.value mode
  | .binary op left right =>
    match op with
    | .or => left.value mode || right.value mode
    | .and => left.value mode && right.value mode
    | .ne => left.value mode != right.value mode
    | _ => left.value mode == right.value mode

/-- A whole number, with a sign if it is negative. -/
def printInt (n : Int) : Text :=
  if n < 0 then '-' :: Nat.toDigits 10 n.natAbs else Nat.toDigits 10 n.natAbs

/-- An operator between two texts. -/
def printBinary (left : Text) (op : Operator) (right : Text) : Text :=
  left ++ ' ' :: op.symbol ++ ' ' :: right

/-- A string between quotes. -/
def printString (text : Text) : Text :=
  '"' :: text ++ ['"']

/-- The expression that a tree is. -/
def print : Tree → Text
  | .truth spelling => spelling.print
  | .numbers op left right => printBinary (printInt left) op (printInt right)
  | .strings equal left right =>
    printBinary (printString left) (if equal then .eq else .ne) (printString right)
  | .not inner => '!' :: parenthesized inner.print
  | .binary op left right => printBinary (parenthesized left.print) op (parenthesized right.print)

end Tree
end Verdict
