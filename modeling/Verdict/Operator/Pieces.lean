import Verdict.Operator
import Verdict.Text.Pieces

/-!
# Pieces between operators

A text is cut at every copy of every operator, first at those of the operator that binds least. What is left are the
operands, if every operator stands between two of them.
-/
namespace Verdict.Operator

/-- The pieces of texts that are cut at every copy of one operator. -/
def cutAll (op : Operator) (texts : List Text) : List Text :=
  texts.flatMap (Text.pieces op.symbol)

/-- The pieces of a text that is cut at every copy of every operator. -/
def pieces (text : Text) : List Text :=
  precedence.foldl (fun texts op => op.cutAll texts) [text]

/-- A text without operators is its only piece. -/
theorem pieces_of_not_occursIn {text : Text} (free : ¬ OccursIn text) : pieces text = [text] := by
  have step : ∀ ops : List Operator, ops.foldl (fun texts op => op.cutAll texts) [text] = [text] := by
    intro ops
    induction ops with
    | nil => rfl
    | cons op ops ih =>
      have one : op.cutAll [text] = [text] := by
        simp [cutAll, Text.pieces_of_not_occurs fun h => free ⟨op, h⟩]
      rw [List.foldl_cons, one, ih]
  exact step precedence

example : pieces ['a', '|', '|', 'b', '<', '=', 'c'] = [['a'], ['b'], ['c']] := by decide
example : pieces ['a', '=', '=', '=', 'b'] = [['a'], ['=', 'b']] := by decide

end Verdict.Operator
