import Verdict.Operator
import Verdict.Text.Whitespace

/-!
# Splits

A text splits at the first copy of an operator, if more than white space stands on both sides of that copy. The
operators are tried from the one that binds least. The sides of a split are trimmed and not empty
(`Split.at?_eq_some_iff`).
-/
namespace Verdict

/-- An operator and the texts on both sides of it. -/
structure Split where
  operator : Operator
  left : Text
  right : Text
  deriving DecidableEq, Repr

namespace Split

/-- The split of a text at the first copy of an operator. -/
def at? (text : Text) (op : Operator) : Option Split :=
  match Text.cut? op.symbol text with
  | none => none
  | some (before, after) =>
    let left := Text.trim before
    let right := Text.trim after
    if left = [] ∨ right = [] then none else some ⟨op, left, right⟩

/-- The split of a text at the operator that binds least, among those at which it splits. -/
def first? (text : Text) : Option Split :=
  Operator.precedence.findSome? (at? text)

theorem at?_eq_some_iff {text : Text} {op : Operator} {split : Split} :
    at? text op = some split ↔
      split.operator = op ∧ split.left ≠ [] ∧ split.right ≠ [] ∧
        ∃ before after, Text.cut? op.symbol text = some (before, after) ∧
          split.left = Text.trim before ∧ split.right = Text.trim after := by
  unfold at?
  obtain ⟨operator, left, right⟩ := split
  split
  · rename_i uncut; simp [uncut]
  · rename_i before after cut
    by_cases blank : Text.trim before = [] ∨ Text.trim after = []
    · simp only [if_pos blank, cut]
      simp only [reduceCtorEq, false_iff]
      rintro ⟨_, l, r, _, _, same, rfl, rfl⟩
      obtain ⟨rfl, rfl⟩ := Prod.mk.inj (Option.some.inj same)
      exact blank.elim l r
    · simp only [if_neg blank, cut, Option.some.injEq, Split.mk.injEq]
      constructor
      · rintro ⟨rfl, rfl, rfl⟩
        exact ⟨rfl, fun h => blank (.inl h), fun h => blank (.inr h), before, after, rfl, rfl, rfl⟩
      · rintro ⟨rfl, _, _, _, _, same, rfl, rfl⟩
        obtain ⟨rfl, rfl⟩ := Prod.mk.inj same
        exact ⟨rfl, rfl, rfl⟩

/-- The first split is a split at its own operator. -/
theorem at?_of_first? {text : Text} {split : Split} (found : first? text = some split) :
    at? text split.operator = some split := by
  obtain ⟨op, _, here⟩ := List.exists_of_findSome?_eq_some found
  rw [(at?_eq_some_iff.mp here).1, here]

end Split
end Verdict
