import Verdict.Error
import Verdict.Text.Pieces

/-!
# Groups

The left-most group of a text that has no group within it. The text has to have as many closing parentheses as
opening ones, and none of them before the first opening one. From there the text falls into pieces, each behind an
opening parenthesis, and the first piece with a closing parenthesis holds the group. A group that is found stands in
the text between its parentheses (`parenthesized_occurs`).
-/
namespace Verdict

/-- A text in parentheses. -/
def parenthesized (text : Text) : Text :=
  '(' :: text ++ [')']

/-- The group in the first piece that closes one, where `whole` is the text that the pieces come from. -/
def firstClosed? (whole : Text) : List Text → Except EvalError (Option Text)
  | [] => .ok none
  | piece :: pieces =>
    match Text.cut? [')'] piece with
    | some ([], []) => .error (.emptyGroup whole)
    | some ([], _ :: _) => .error (.unbalancedGroup piece '(')
    | some (group, _) => .ok (some group)
    | none => firstClosed? whole pieces

/-- The left-most group with no group in it, or nothing where there are no parentheses. -/
def innermostGroup? (text : Text) : Except EvalError (Option Text) :=
  if text.count ')' < text.count '(' then .error (.unbalancedGroup text ')')
  else if text.count '(' < text.count ')' then .error (.unbalancedGroup text '(')
  else
    match Text.cut? ['('] text with
    | none => .ok none
    | some (before, groups) =>
      if ')' ∈ before then .error (.unbalancedGroup before '(')
      else firstClosed? text (Text.pieces ['('] groups)

theorem firstClosed?_eq_some {whole group : Text} {pieces : List Text}
    (found : firstClosed? whole pieces = .ok (some group)) :
    group ≠ [] ∧ ∃ piece ∈ pieces, ∃ rest, Text.cut? [')'] piece = some (group, rest) := by
  induction pieces with
  | nil => simp [firstClosed?] at found
  | cons piece pieces ih =>
    unfold firstClosed? at found
    split at found
    · simp at found
    · simp at found
    · rename_i first rest _ full cut
      obtain rfl := Option.some.inj (Except.ok.inj found)
      refine ⟨?_, piece, by simp, rest, cut⟩
      rintro rfl
      cases rest with
      | nil => simp_all
      | cons c cs => simp_all
    · obtain ⟨nonempty, other, mem, rest, cut⟩ := ih found
      exact ⟨nonempty, other, List.mem_cons_of_mem _ mem, rest, cut⟩

/-- A group that is found stands in the text in parentheses. -/
theorem parenthesized_occurs {text group : Text} (found : innermostGroup? text = .ok (some group)) :
    parenthesized group <:+: text := by
  unfold innermostGroup? at found
  split at found
  · simp at found
  split at found
  · simp at found
  split at found
  · simp at found
  rename_i before groups cut
  split at found
  · simp at found
  obtain ⟨_, piece, mem, rest, ended⟩ := firstClosed?_eq_some found
  obtain ⟨front, back, whole⟩ := Text.cons_occurs_of_mem_pieces mem
  have shape : text = before ++ '(' :: groups := by simpa using Text.eq_of_cut?_eq_some cut
  have inner : piece = group ++ ')' :: rest := by simpa using Text.eq_of_cut?_eq_some ended
  refine ⟨before ++ front, rest ++ back, ?_⟩
  rw [shape, ← whole, inner]
  simp [parenthesized]

end Verdict
