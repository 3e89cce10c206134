import Verdict.Group.Scan
import Verdict.Proofs.Group.Reduction

/-!
# The search for a group and the scan for it

The search cuts a text at its opening parentheses and looks for the first piece in which one is closed; the scan looks
for the first closing parenthesis and goes back from there. Both come to the same group, or to the same error, in every
text with as many parentheses of one kind as of the other (`groupAt?_eq`). No group that holds no other stands further
to the left (`length_le_of_closed_first`).
-/
namespace Verdict

/-! ## What the scan comes to -/

/-- The scan at the group that is closed first. -/
theorem groupAt?_closed {front inner back : Text} (plain : Ungrouped inner) (open_ : ')' ∉ front) :
    groupAt? (front ++ (parenthesized inner ++ back)) =
      closedGroup (front ++ (parenthesized inner ++ back)) inner back := by
  have shape : front ++ (parenthesized inner ++ back) = (front ++ '(' :: inner) ++ ')' :: back := by
    simp [parenthesized]
  have first : ')' ∉ front ++ '(' :: inner := by simp [open_, plain.2]
  have last : (front ++ '(' :: inner).reverse.takeWhile (· ≠ '(') = inner.reverse := by
    have absent : '(' ∉ inner.reverse := by simp [plain.1]
    have cut : (inner.reverse ++ '(' :: front.reverse).takeWhile (· ≠ '(') = inner.reverse :=
      Text.takeWhile_append_cons absent
    simpa using cut
  rw [shape, groupAt?, Text.dropWhile_append_cons first]
  dsimp only
  rw [Text.takeWhile_append_cons first, last, if_neg (by simp)]
  by_cases empty : inner = []
  · simp [empty, closedGroup, emptyPairError, apply_ite]
  · simp [empty, closedGroup]

/-- The scan where something is closed before anything is opened. -/
theorem groupAt?_early {before after : Text} (plain : Ungrouped before) :
    groupAt? (before ++ ')' :: after) =
      .error (.unbalancedGroup ((before ++ ')' :: after).takeWhile (· ≠ '(')) '(') := by
  rw [groupAt?, Text.dropWhile_append_cons plain.2]
  dsimp only
  rw [Text.takeWhile_append_cons plain.2, if_pos plain.1]

/-- Where there are as many parentheses of one kind as of the other, the scan is the search. -/
theorem groupAt?_eq {text : Text} (even : text.count ')' = text.count '(') : groupAt? text = innermostGroup? text := by
  by_cases closes : ')' ∈ text
  · obtain ⟨before, after, rfl, first⟩ := List.eq_append_cons_of_mem closes
    by_cases opens : '(' ∈ before
    · obtain ⟨front, inner, rfl, open_, plain⟩ := exists_last_open first opens
      have shape : front ++ '(' :: inner ++ ')' :: after = front ++ (parenthesized inner ++ after) := by
        simp [parenthesized]
      rw [shape] at even ⊢
      rw [groupAt?_closed plain open_, innermostGroup?_closed plain open_ even]
    · have plain : Ungrouped before := ⟨opens, first⟩
      rw [groupAt?_early plain, innermostGroup?_early plain even]
  · rw [groupAt?_eq_none_iff.mpr closes, innermostGroup?_of_ungrouped (ungrouped_of_not_mem even closes)]

/-! ## The left-most group -/

/-- The group that is closed first stands further to the left than any other text in parentheses without parentheses
    in it. -/
theorem length_le_of_closed_first {front inner back front' inner' back' : Text} (open_ : ')' ∉ front)
    (plain' : Ungrouped inner')
    (same : front ++ (parenthesized inner ++ back) = front' ++ (parenthesized inner' ++ back')) :
    front.length ≤ front'.length := by
  rcases List.append_eq_append_iff.mp same with ⟨more, rfl, _⟩ | ⟨more, rfl, rest⟩
  · simp
  · -- The other text would have to be closed within `more`, or to hold the group.
    cases more with
    | nil => simp
    | cons c more =>
      obtain ⟨rfl, tail⟩ : '(' = c ∧ inner' ++ (')' :: back') = more ++ (parenthesized inner ++ back) := by
        simpa [parenthesized] using rest
      have closed : ')' ∉ more := fun mem => open_ (by simp [mem])
      rcases List.append_eq_append_iff.mp tail with ⟨between, rfl, here⟩ | ⟨between, rfl, here⟩
      · cases between with
        | nil => simp [parenthesized] at here
        | cons d between =>
          obtain ⟨rfl, _⟩ := List.cons.inj here
          exact absurd (by simp) closed
      · cases between with
        | nil => simp [parenthesized] at here
        | cons d between =>
          obtain ⟨rfl, _⟩ : '(' = d ∧ _ := by simpa [parenthesized] using here
          exact absurd (by simp) plain'.1

/-! ## The search and the scan -/

/-- The search finds what the scan finds, and fails as the scan fails. It finds nothing exactly where there are no
    parentheses; a group that it finds is not empty, has no parentheses, and stands further to the left than any other
    group of this kind. -/
theorem innermostGroup?_eq_groupAt? {text : Text} (even : text.count '(' = text.count ')') :
    innermostGroup? text = groupAt? text ∧
      (innermostGroup? text = .ok none ↔ Ungrouped text) ∧
      ∀ group, innermostGroup? text = .ok (some group) →
        group ≠ [] ∧ Ungrouped group ∧
          ∃ front back, text = front ++ (parenthesized group ++ back) ∧
            ∀ front' group' back', text = front' ++ (parenthesized group' ++ back') → Ungrouped group' →
              front.length ≤ front'.length := by
  refine ⟨(groupAt?_eq even.symm).symm, ⟨ungrouped_of_found_none, innermostGroup?_of_ungrouped⟩, ?_⟩
  intro group found
  obtain ⟨plain, filled⟩ := plain_of_found found
  obtain ⟨front, back, rfl, open_⟩ := closed_first_of_found found
  refine ⟨filled, plain, front, back, rfl, ?_⟩
  intro front' group' back' same plain'
  exact length_le_of_closed_first open_ plain' same

/-- The group stands behind an opening parenthesis that is closed later. -/
theorem innermostGroup?_eq_groupAt?_nested :
    let text := "(true || (1<2)) && (2<1)".toList
    text.count '(' = text.count ')' ∧ innermostGroup? text = groupAt? text ∧
      groupAt? text = .ok (some "1<2".toList) := by
  intro text
  have even : text.count '(' = text.count ')' := by decide
  exact ⟨even, (innermostGroup?_eq_groupAt? even).1, by decide⟩

end Verdict
