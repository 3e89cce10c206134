import Verdict.Proofs.Padding

/-!
# The sides of a split

The sides of a split are parts of the text without white space at their ends, and none of them is empty. The left one
ends before the first copy of the operator, so the operator is not in it. With the operator between them they are no
longer than the text (`length_sides_le`).
-/
namespace Verdict

/-- The pattern is not in what stands before its first copy. -/
theorem Text.not_occurs_of_cut? {pattern text before after : Text} (nonempty : pattern ≠ [])
    (cut : cut? pattern text = some (before, after)) : ¬ pattern <:+: before := by
  rintro ⟨front, back, rfl⟩
  have whole := eq_of_cut?_eq_some cut
  have other : text = front ++ pattern ++ (back ++ pattern ++ after) := by simp [whole]
  have first := length_le_of_cut?_eq_some cut other
  have positive := List.length_pos_iff.mpr nonempty
  simp only [List.length_append] at first
  omega

theorem Text.length_trim_le (text : Text) : (trim text).length ≤ text.length :=
  (trim_occurs text).length_le

theorem Text.not_isBlank_trim {text : Text} (nonempty : trim text ≠ []) : ¬ IsBlank (trim text) := by
  intro blank
  apply nonempty
  rw [← trim_trim, trim_eq_nil_iff]
  exact blank

/-- Only the operators between numbers may be a single character. -/
theorem Operator.length_symbol {op : Operator} (truthful : op.isRelational = false) : op.symbol.length = 2 := by
  cases op with
  | or | and | ne | eq => rfl
  | ge | le | gt | lt => simp [isRelational] at truthful

namespace Split

variable {text : Text} {split : Split}

theorem not_isBlank_sides (found : first? text = some split) :
    ¬ Text.IsBlank split.left ∧ ¬ Text.IsBlank split.right := by
  obtain ⟨_, someLeft, someRight, before, after, _, left, right⟩ := at?_eq_some_iff.mp (at?_of_first? found)
  rw [left] at someLeft ⊢
  rw [right] at someRight ⊢
  exact ⟨Text.not_isBlank_trim someLeft, Text.not_isBlank_trim someRight⟩

theorem trim_sides (found : first? text = some split) :
    Text.trim split.left = split.left ∧ Text.trim split.right = split.right := by
  obtain ⟨_, _, _, before, after, _, left, right⟩ := at?_eq_some_iff.mp (at?_of_first? found)
  rw [left, right]
  exact ⟨Text.trim_trim before, Text.trim_trim after⟩

/-- The sides of a split stand in the text. -/
theorem sides_occur (found : first? text = some split) : split.left <:+: text ∧ split.right <:+: text := by
  obtain ⟨_, _, _, before, after, cut, left, right⟩ := at?_eq_some_iff.mp (at?_of_first? found)
  obtain rfl := Text.eq_of_cut?_eq_some cut
  rw [left, right, List.append_assoc]
  exact ⟨(Text.trim_occurs before).trans (List.prefix_append _ _).isInfix,
    (Text.trim_occurs after).trans ((List.suffix_append _ _).trans (List.suffix_append _ _)).isInfix⟩

/-- So does the operator between them. -/
theorem symbol_occurs (found : first? text = some split) : split.operator.symbol <:+: text := by
  obtain ⟨_, _, _, before, after, cut, _⟩ := at?_eq_some_iff.mp (at?_of_first? found)
  exact ⟨before, after, (Text.eq_of_cut?_eq_some cut).symm⟩

theorem ungrouped_sides (plain : Ungrouped text) (found : first? text = some split) :
    Ungrouped split.left ∧ Ungrouped split.right := by
  obtain ⟨_, _, _, before, after, cut, left, right⟩ := at?_eq_some_iff.mp (at?_of_first? found)
  obtain rfl := Text.eq_of_cut?_eq_some cut
  obtain ⟨front, plainRight⟩ := ungrouped_append_iff.mp plain
  rw [left, right]
  exact ⟨(ungrouped_append_iff.mp front).1.trim, plainRight.trim⟩

/-- A text splits at the first copy of the operator. -/
theorem not_occurs_left (found : first? text = some split) : ¬ split.operator.symbol <:+: split.left := by
  obtain ⟨_, _, _, before, after, cut, left, _⟩ := at?_eq_some_iff.mp (at?_of_first? found)
  rw [left, split.operator.black_symbol.occurs_trim_iff]
  exact Text.not_occurs_of_cut? split.operator.symbol_ne_nil cut

/-- White space around the sides is all that is lost. -/
theorem length_sides_le (found : first? text = some split) :
    split.left.length + split.operator.symbol.length + split.right.length ≤ text.length := by
  obtain ⟨_, _, _, before, after, cut, left, right⟩ := at?_eq_some_iff.mp (at?_of_first? found)
  obtain rfl := Text.eq_of_cut?_eq_some cut
  have front := Text.length_trim_le before
  have back := Text.length_trim_le after
  rw [left, right]
  simp only [List.length_append]
  omega

theorem length_sides_pos (found : first? text = some split) : 0 < split.left.length ∧ 0 < split.right.length := by
  obtain ⟨_, someLeft, someRight, _⟩ := at?_eq_some_iff.mp (at?_of_first? found)
  exact ⟨List.length_pos_iff.mpr someLeft, List.length_pos_iff.mpr someRight⟩

end Split
end Verdict
