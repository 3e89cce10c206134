import Verdict.Group
import Verdict.Operand
import Verdict.Trace

/-!
# Evaluation

The value of an expression. Groups are evaluated one by one, each time the left-most that holds no other, and every
copy of the group gives way to its truth value (`reduceGroups`). What is left has no parentheses: it splits at the
operator that binds least (`ungrouped`). The operands of the operators on truth values are expressions of their own,
one level deeper, and the number of levels is limited (`reduce`). Both operands are always evaluated, the left one
first.
-/
namespace Verdict

/-- The number that an operand has to be. -/
def number (text : Text) : Except EvalError Decimal :=
  match Decimal.ofText? text with
  | some value => .ok value
  | none => .error (.numericConversion text)

/-- The value of a text that splits at an order between two numbers. No operator may stand in an operand. -/
def relation (text : Text) (split : Split) : Except EvalError Bool :=
  if Operator.occursIn split.left || Operator.occursIn split.right then
    .error (.typeMismatch text split.operator .bool .unknown)
  else do
    let left ← number split.left
    let right ← number split.right
    return split.operator.admits (left.compare right)

/-- The value of an operand beside one in which an operator stands: an expression if an operator stands in it too,
    and otherwise a truth value. -/
def operandValue (descend : Text → Traced Bool) (text : Text) : Traced Bool :=
  if Operator.occursIn text then descend text else .ofExcept (Boolean.ofText text)

/-- Whether the operands of a split are equal. Operands without operators are compared as what they are. -/
def equality (mode : Comparison) (descend : Text → Traced Bool) (text : Text) (split : Split) : Traced Bool :=
  if Operator.occursIn split.left || Operator.occursIn split.right then do
    let left ← operandValue descend split.left
    let right ← operandValue descend split.right
    return left == right
  else
    .ofExcept (Operand.equals mode text split.operator (Operand.ofText split.left) (Operand.ofText split.right))

/-- The value of a text that splits. -/
def splitValue (mode : Comparison) (descend : Text → Traced Bool) (text : Text) (split : Split) : Traced Bool :=
  match split.operator with
  | .or => do
    let left ← descend split.left
    let right ← descend split.right
    return left || right
  | .and => do
    let left ← descend split.left
    let right ← descend split.right
    return left && right
  | .eq => equality mode descend text split
  | .ne => do
    let equal ← equality mode descend text split
    return !equal
  | .ge | .le | .gt | .lt => .ofExcept (relation text split)

/-- The value of a text without groups: of its first split, or of the truth value that it spells. -/
def ungrouped (mode : Comparison) (depth : Nat) (descend : Text → Traced Bool) (text : Text) : Traced Bool :=
  match Split.first? text with
  | none => .ofExcept (Boolean.ofText text)
  | some split => do
    .report (.split split depth)
    splitValue mode descend text split

/-- A text in which every copy of a group has given way to its value. -/
def substitute (group : Text) (result : Bool) (text : Text) : Text :=
  Text.replaceAll (parenthesized group) (Boolean.word result) text

/-- There are fewer parentheses once a group has given way to its value. -/
theorem count_substitute_lt {text group : Text} (found : innermostGroup? text = .ok (some group)) (result : Bool) :
    (substitute group result text).count '(' < text.count '(' := by
  refine Text.count_replaceAll_lt ?_ (parenthesized_occurs found)
  have unopened : (Boolean.word result).count '(' = 0 := by cases result <;> decide
  simp [unopened, parenthesized]

/-- The value of a text, once all its groups have given way to their values. -/
def reduceGroups (value : Text → Traced Bool) (depth : Nat) (text : Text) : Traced Bool :=
  match _found : innermostGroup? text with
  | .error error => .fail error
  | .ok none => value text
  | .ok (some group) => do
    let result ← value group
    .report (.reducedGroup group result depth)
    reduceGroups value depth (substitute group result text)
termination_by text.count '('
decreasing_by exact count_substitute_lt _found _

/-- One step: a text without groups is evaluated, and in any other one group gives way to its value. -/
theorem reduceGroups_eq (value : Text → Traced Bool) (depth : Nat) (text : Text) :
    reduceGroups value depth text =
      match innermostGroup? text with
      | .error error => .fail error
      | .ok none => value text
      | .ok (some group) =>
        value group >>= fun result =>
          .report (.reducedGroup group result depth) >>= fun _ =>
            reduceGroups value depth (substitute group result text) := by
  rw [reduceGroups]
  split <;> rename_i found <;> simp [found]

/-- The value of an expression at a depth, with so many levels left of those that the limit allows. -/
def reduce (mode : Comparison) (limit : Nat) : (levels depth : Nat) → Text → Traced Bool
  | 0, _, text => .fail (.limitExceeded limit text)
  | levels + 1, depth, text =>
    reduceGroups (ungrouped mode depth (reduce mode limit levels (depth + 1))) depth text

end Verdict
