import Verdict.Text.Basic

/-!
# Operators

The binary operators of an expression: their symbols, the order in which an expression is searched for them, and
what a comparison of two numbers has to give for them to hold.
-/
namespace Verdict

/-- A binary operator. -/
inductive Operator where
  | or
  | and
  | ne
  | eq
  | ge
  | le
  | gt
  | lt
  deriving DecidableEq, Repr

namespace Operator

/-- The operator as it is written. -/
def symbol : Operator → Text
  | .or => ['|', '|']
  | .and => ['&', '&']
  | .ne => ['!', '=']
  | .eq => ['=', '=']
  | .ge => ['>', '=']
  | .le => ['<', '=']
  | .gt => ['>']
  | .lt => ['<']

/-- All operators, from the one that binds least to the one that binds most. A symbol that is part of another one
    comes after it. -/
def precedence : List Operator :=
  [.or, .and, .ne, .eq, .ge, .le, .gt, .lt]

theorem mem_precedence (op : Operator) : op ∈ precedence := by
  cases op <;> simp [precedence]

theorem symbol_ne_nil (op : Operator) : op.symbol ≠ [] := by
  cases op <;> simp [symbol]

/-- An operator on truth values that is not an equality. -/
def isLogical : Operator → Bool
  | .or | .and => true
  | _ => false

/-- An operator that orders two numbers. -/
def isRelational : Operator → Bool
  | .ge | .le | .gt | .lt => true
  | _ => false

/-- Whether an operator between two numbers holds, from how the left number stands to the right one. The operators
    on truth values hold for no numbers. -/
def admits : Operator → Ordering → Bool
  | .eq, order => order.isEq
  | .ne, order => order.isNe
  | .ge, order => order.isGE
  | .le, order => order.isLE
  | .gt, order => order.isGT
  | .lt, order => order.isLT
  | .or, _ | .and, _ => false

/-- Some operator stands in the text. -/
def OccursIn (text : Text) : Prop :=
  ∃ op : Operator, op.symbol <:+: text

/-- Whether some operator stands in the text. -/
def occursIn (text : Text) : Bool :=
  precedence.any fun op => (Text.cut? op.symbol text).isSome

theorem occursIn_iff {text : Text} : occursIn text = true ↔ OccursIn text := by
  simp only [occursIn, List.any_eq_true, Text.cut?_isSome_iff, OccursIn]
  exact ⟨fun ⟨op, _, found⟩ => ⟨op, found⟩, fun ⟨op, found⟩ => ⟨op, mem_precedence op, found⟩⟩

end Operator
end Verdict
