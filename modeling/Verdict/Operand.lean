import Verdict.Boolean
import Verdict.Comparison
import Verdict.Decimal.Basic

/-!
# Operands

What the operand of an equality is when no operator stands in it: a string if quotes stand at its ends, a number if it
spells one, and otherwise a truth value, which is read only once the other operand asks for one.
-/
namespace Verdict

/-- An operand without operators. -/
inductive Operand where
  /-- A string, with its quotes. -/
  | quoted (text : Text)
  | decimal (value : Decimal)
  /-- Neither a string nor a number. -/
  | bare (text : Text)
  deriving DecidableEq

namespace Operand

/-- A quote at the front and a quote at the end. One quote alone is both. -/
def IsQuoted (text : Text) : Prop :=
  text.head? = some '"' ∧ text.getLast? = some '"'

instance (text : Text) : Decidable (IsQuoted text) :=
  inferInstanceAs (Decidable (text.head? = some '"' ∧ text.getLast? = some '"'))

/-- What a text without white space at its ends is as an operand. -/
def ofText (text : Text) : Operand :=
  if IsQuoted text then .quoted text
  else
    match Decimal.ofText? text with
    | some value => .decimal value
    | none => .bare text

def kind : Operand → OperandKind
  | .quoted _ => .string
  | .decimal _ => .decimal
  | .bare _ => .bool

/-- The kind of an operand where one kind is asked for: that kind, or unknown. -/
def kindAgainst (asked : OperandKind) (operand : Operand) : OperandKind :=
  if operand.kind = asked then asked else .unknown

/-- Whether two operands are equal, as operands of `operator` in `expression`. Strings are equal as the comparison
    says, numbers by value. A string does not go with anything else, nor does a number with a truth value. -/
def equals (mode : Comparison) (expression : Text) (operator : Operator) (left right : Operand) :
    Except EvalError Bool :=
  let mismatch (asked : OperandKind) : EvalError :=
    .typeMismatch expression operator (left.kindAgainst asked) (right.kindAgainst asked)
  match left, right with
  | .quoted a, .quoted b => .ok (mode.equals a b)
  | .quoted _, _ => .error (mismatch .string)
  | _, .quoted _ => .error (mismatch .string)
  | .decimal a, .decimal b => .ok (a.compare b).isEq
  | .decimal _, .bare _ => .error (mismatch .decimal)
  | .bare _, .decimal _ => .error (mismatch .decimal)
  | .bare a, .bare b => do
    let left ← Boolean.ofText a
    let right ← Boolean.ofText b
    return left == right

end Operand
end Verdict
