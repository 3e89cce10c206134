import Verdict.Proofs.Group.Innermost

/-!
# Texts whose groups hold something

Texts whose parentheses match, with something between the two of each pair, may be joined and put into parentheses.
-/
namespace Verdict

/-! ## Where an empty pair may start -/

theorem not_startsIn_emptyPair_of_not_mem {text rest : Text} (absent : '(' ∉ text) :
    ¬ Text.StartsIn emptyPair text rest := by
  intro starts
  rcases starts.of_pair with inside | ⟨last, _⟩
  · exact absent (inside.subset (by simp))
  · exact absent (List.mem_of_getLast? last)

theorem Balanced.getLast?_ne {text : Text} (balanced : Balanced text) : text.getLast? ≠ some '(' := by
  intro last
  obtain ⟨front, rfl⟩ := List.getLast?_eq_some_iff.mp last
  have fewer := balanced.closed_le front (List.prefix_append _ _)
  have even := balanced.closed_eq
  simp at even
  omega

theorem Balanced.head?_ne {text : Text} (balanced : Balanced text) : text.head? ≠ some ')' := by
  intro first
  obtain ⟨rest, rfl⟩ := List.head?_eq_some_iff.mp first
  have fewer := balanced.closed_le [')'] ⟨rest, rfl⟩
  simp at fewer

/-- No empty pair starts in a text without one, if the text does not end with an opening parenthesis. -/
theorem WellGrouped.not_startsIn {text : Text} (grouped : WellGrouped text) (rest : Text) :
    ¬ Text.StartsIn emptyPair text rest := by
  intro starts
  rcases starts.of_pair with inside | ⟨last, _⟩
  · exact grouped.2 inside
  · exact grouped.1.getLast?_ne last

/-! ## Joining and parentheses -/

theorem Ungrouped.wellGrouped {text : Text} (plain : Ungrouped text) : WellGrouped text :=
  ⟨plain.balanced, fun here => plain.1 (here.subset (by simp [emptyPair]))⟩

theorem WellGrouped.append {a b : Text} (left : WellGrouped a) (right : WellGrouped b) : WellGrouped (a ++ b) := by
  refine ⟨left.1.append right.1, ?_⟩
  rw [Text.occurs_append_iff (left.not_startsIn b)]
  exact right.2

theorem WellGrouped.parenthesized {text : Text} (inner : WellGrouped text) (nonempty : text ≠ []) :
    WellGrouped (parenthesized text) := by
  refine ⟨inner.1.parenthesized, ?_⟩
  have shape : Verdict.parenthesized text = '(' :: (text ++ [')']) := rfl
  rw [shape, List.infix_cons_iff, Text.occurs_append_iff (inner.not_startsIn [')'])]
  rintro (here | later)
  · cases text with
    | nil => exact nonempty rfl
    | cons c text =>
      obtain rfl : ')' = c := by simpa [emptyPair] using here
      exact inner.1.head?_ne rfl
  · have short := later.length_le
    simp [emptyPair] at short

end Verdict
