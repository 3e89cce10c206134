import Verdict.Operator

/-!
# Errors

Why an expression has no value, with the text at fault, and why a configuration is refused. The wording of each
error is in its `message`, with the texts as they stand.
-/
namespace Verdict

/-- What an operand is taken for where two operands do not go together. -/
inductive OperandKind where
  | string
  | decimal
  | bool
  /-- Not of the kind that the other operand asks for. -/
  | unknown
  deriving DecidableEq, Repr

namespace OperandKind

def name : OperandKind → String
  | .string => "string"
  | .decimal => "decimal"
  | .bool => "bool"
  | .unknown => "unknown object"

def all : List OperandKind :=
  [.string, .decimal, .bool, .unknown]

theorem mem_all (kind : OperandKind) : kind ∈ all := by
  cases kind <;> simp [all]

end OperandKind

/-- Why an expression has no value. -/
inductive EvalError where
  /-- The expression is blank. -/
  | emptyInput
  /-- Nothing follows the negations. -/
  | emptyValue (expression : Text)
  /-- A parenthesis lacks its partner, the one that is missing. -/
  | unbalancedGroup (expression : Text) (missing : Char)
  /-- There is nothing between two parentheses. -/
  | emptyGroup (expression : Text)
  /-- A truth value is spelled neither way. -/
  | invalidBoolean (value : Text)
  /-- The operands do not go together under the operator. -/
  | typeMismatch (expression : Text) (operator : Operator) (left right : OperandKind)
  /-- An operand that has to be a number is none. -/
  | numericConversion (value : Text)
  /-- The operands are nested more deeply than allowed. -/
  | limitExceeded (limit : Nat) (expression : Text)
  deriving DecidableEq, Repr

def EvalError.message : EvalError → String
  | .emptyInput => "empty expression"
  | .emptyValue expression => "empty value in '" ++ String.ofList expression ++ "'"
  | .unbalancedGroup expression missing =>
    "unbalanced group in '" ++ String.ofList expression ++ "': '" ++ String.ofList [missing] ++ "' expected"
  | .emptyGroup expression => "group has no value in '" ++ String.ofList expression ++ "'"
  | .invalidBoolean value => "'" ++ String.ofList value ++ "' is not a valid boolean"
  | .typeMismatch expression operator left right =>
    "operator '" ++ String.ofList operator.symbol ++ "' cannot be applied to operands of type '" ++ left.name ++
      "' and '" ++ right.name ++ "' in '" ++ String.ofList expression ++ "'"
  | .numericConversion value => "'" ++ String.ofList value ++ "' is not a valid decimal number"
  | .limitExceeded limit expression =>
    "nesting limit of " ++ toString limit ++ " exceeded at '" ++ String.ofList expression ++ "'"

/-- Why a configuration is refused. -/
inductive ConfigError where
  /-- No expression can be evaluated within a nesting limit of zero. -/
  | zeroDepth
  deriving DecidableEq, Repr

def ConfigError.message : ConfigError → String
  | .zeroDepth => "max_depth must be at least 1"

instance decidableEqOutcome {ε α : Type} [DecidableEq ε] [DecidableEq α] : DecidableEq (Except ε α)
  | .ok a, .ok b => decidable_of_iff (a = b) (by simp)
  | .error a, .error b => decidable_of_iff (a = b) (by simp)
  | .ok _, .error _ => isFalse (by simp)
  | .error _, .ok _ => isFalse (by simp)

end Verdict
