import Verdict.Decimal.Value
import Verdict.Evaluator
import Verdict.Operator.Order

/-!
# Chains of operands

Expressions without parentheses: operands joined by operators on truth values, with white space anywhere between
them. The value of a chain follows the conventional precedence: an order between two numbers binds most, then the
equalities, which go from left to right, then "and", then "or".
-/
namespace Verdict

/-- An operand of a chain. -/
inductive Link where
  | truth (spelling : Boolean.Spelling)
  /-- Two numbers, with the white space around them, and an order between them. -/
  | order (left : Text) (op : Operator) (right : Text)
  deriving DecidableEq, Repr

namespace Link

/-- The operand is written as one: a truth value as such, or numbers in range with an order between them. -/
def IsValid : Link → Prop
  | .truth spelling => spelling.IsValid
  | .order left op right =>
    op.isRelational = true ∧ (Decimal.ofText? left).isSome = true ∧ (Decimal.ofText? right).isSome = true

instance : DecidablePred IsValid
  | .truth spelling => inferInstanceAs (Decidable spelling.IsValid)
  | .order _ _ _ => inferInstanceAs (Decidable (_ ∧ _ ∧ _))

/-- The operand as it is written. -/
def print : Link → Text
  | .truth spelling => spelling.print
  | .order left op right => left ++ op.symbol ++ right

/-- The value of the operand. -/
def value : Link → Bool
  | .truth spelling => spelling.value
  | .order left op right =>
    match Decimal.ofText? left, Decimal.ofText? right with
    | some a, some b => op.holds a.value b.value
    | _, _ => false

end Link

/-- An operator between truth values and the operand behind it, with white space on both sides of the operand. -/
structure Joined where
  op : Operator
  before : Text
  link : Link
  after : Text
  deriving DecidableEq, Repr

/-- An operand with white space around it, and the operands joined to it. -/
structure Chain where
  before : Text
  first : Link
  after : Text
  rest : List Joined
  deriving DecidableEq, Repr

namespace Chain

/-- The operands are written as such, white space stands around them, and the operators join truth values. -/
structure IsValid (chain : Chain) : Prop where
  first : Text.IsBlank chain.before ∧ chain.first.IsValid ∧ Text.IsBlank chain.after
  rest : ∀ joined ∈ chain.rest, joined.op.isRelational = false ∧ Text.IsBlank joined.before ∧
    joined.link.IsValid ∧ Text.IsBlank joined.after

instance (chain : Chain) : Decidable chain.IsValid :=
  decidable_of_iff
    ((Text.IsBlank chain.before ∧ chain.first.IsValid ∧ Text.IsBlank chain.after) ∧
      ∀ joined ∈ chain.rest, joined.op.isRelational = false ∧ Text.IsBlank joined.before ∧
        joined.link.IsValid ∧ Text.IsBlank joined.after)
    ⟨fun valid => ⟨valid.1, valid.2⟩, fun valid => ⟨valid.first, valid.rest⟩⟩

/-- The chain as it is written. -/
def print (chain : Chain) : Text :=
  chain.before ++ chain.first.print ++ chain.after ++
    chain.rest.flatMap fun joined => joined.op.symbol ++ joined.before ++ joined.link.print ++ joined.after

/-- The number of operands. -/
def size (chain : Chain) : Nat :=
  chain.rest.length + 1

/-- What is known of a chain while it is read: the alternatives, the conjunction and the equalities so far. -/
structure Reading where
  or : Bool
  and : Bool
  eq : Bool

/-- Reads one more operand. An operator ends what binds more than it does. -/
def Reading.join (reading : Reading) (op : Operator) (value : Bool) : Reading :=
  match op with
  | .or => ⟨reading.or || reading.and && reading.eq, true, value⟩
  | .and => ⟨reading.or, reading.and && reading.eq, value⟩
  | .ne => ⟨reading.or, reading.and, reading.eq != value⟩
  | _ => ⟨reading.or, reading.and, reading.eq == value⟩

/-- The value once the rest of the chain is read. -/
def Reading.finish (reading : Reading) : List (Operator × Bool) → Bool
  | [] => reading.or || reading.and && reading.eq
  | (op, value) :: rest => (reading.join op value).finish rest

/-- The conventional value of operands joined by operators. -/
def conventional (first : Bool) (rest : List (Operator × Bool)) : Bool :=
  Reading.finish ⟨false, true, first⟩ rest

/-- The value of a chain. -/
def value (chain : Chain) : Bool :=
  conventional chain.first.value (chain.rest.map fun joined => (joined.op, joined.link.value))

example : conventional true [(.or, true), (.and, false)] = true := by decide
example : conventional false [(.eq, false), (.ne, true)] = false := by decide
example : conventional true [(.and, false), (.eq, false)] = true := by decide

end Chain
end Verdict
