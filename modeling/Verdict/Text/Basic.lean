/-!
# Texts

A text is a list of characters. It is cut by the first copy of a pattern in it (`cut?`): the cut is the left-most
one there is (`cut?_eq_some_iff`), and it exists exactly where the pattern stands somewhere in the text
(`cut?_isSome_iff`).
-/
namespace Verdict

/-- Characters in reading order. -/
abbrev Text := List Char

namespace Text

/-- What stands before and after the first copy of `pattern`, or nothing where there is no copy. -/
def cut? (pattern : Text) : Text → Option (Text × Text)
  | [] => if pattern = [] then some ([], []) else none
  | c :: rest =>
    match pattern.isPrefixOf? (c :: rest) with
    | some after => some ([], after)
    | none =>
      match cut? pattern rest with
      | some (before, after) => some (c :: before, after)
      | none => none

theorem isPrefixOf?_nil (text : Text) : List.isPrefixOf? [] text = some text := by
  cases text <;> rfl

theorem isPrefixOf?_cons_nil (p : Char) (pattern : Text) : (p :: pattern).isPrefixOf? [] = none :=
  rfl

theorem isPrefixOf?_cons_cons (p c : Char) (pattern text : Text) :
    (p :: pattern).isPrefixOf? (c :: text) = if p = c then pattern.isPrefixOf? text else none := by
  by_cases same : p = c
  · rw [if_pos same]
    exact if_pos (beq_iff_eq.mpr same)
  · rw [if_neg same]
    exact if_neg fun equal => same (beq_iff_eq.mp equal)

theorem isPrefixOf?_eq_some_iff {pattern text after : Text} :
    pattern.isPrefixOf? text = some after ↔ text = pattern ++ after := by
  induction pattern generalizing text with
  | nil => rw [isPrefixOf?_nil, Option.some.injEq, List.nil_append]
  | cons p pattern ih =>
    cases text with
    | nil => simp [isPrefixOf?_cons_nil]
    | cons c text =>
      rw [isPrefixOf?_cons_cons]
      by_cases same : p = c
      · simp [same, ih]
      · simp [same, Ne.symm same]

theorem isPrefixOf?_eq_none_iff {pattern text : Text} : pattern.isPrefixOf? text = none ↔ ¬ pattern <+: text := by
  rw [Option.eq_none_iff_forall_ne_some]
  constructor
  · rintro absent ⟨after, rfl⟩
    exact absent after (isPrefixOf?_eq_some_iff.mpr rfl)
  · intro absent after found
    exact absent ⟨after, (isPrefixOf?_eq_some_iff.mp found).symm⟩

/-- A cut gives back the text around the pattern. -/
theorem eq_of_cut?_eq_some {pattern text before after : Text} (found : cut? pattern text = some (before, after)) :
    text = before ++ pattern ++ after := by
  induction text generalizing before with
  | nil =>
    by_cases empty : pattern = []
    · obtain ⟨rfl, rfl⟩ : before = [] ∧ after = [] := by simpa [cut?, empty, eq_comm] using found
      simp [empty]
    · simp [cut?, empty] at found
  | cons c rest ih =>
    unfold cut? at found
    split at found
    · rename_i tail here
      obtain ⟨rfl, rfl⟩ : before = [] ∧ after = tail := by simpa [eq_comm] using found
      simpa using isPrefixOf?_eq_some_iff.mp here
    · split at found
      · rename_i before' after' later
        obtain ⟨rfl, rfl⟩ : before = c :: before' ∧ after = after' := by simpa [eq_comm] using found
        simpa using ih later
      · simp at found

/-- No copy of the pattern starts before the one that is cut at. -/
theorem length_le_of_cut?_eq_some {pattern text before after : Text}
    (found : cut? pattern text = some (before, after)) {before' after' : Text}
    (other : text = before' ++ pattern ++ after') : before.length ≤ before'.length := by
  induction text generalizing before before' with
  | nil =>
    by_cases empty : pattern = []
    · obtain ⟨rfl, rfl⟩ : before = [] ∧ after = [] := by simpa [cut?, empty, eq_comm] using found
      simp
    · simp [cut?, empty] at found
  | cons c rest ih =>
    unfold cut? at found
    split at found
    · obtain ⟨rfl, rfl⟩ : before = [] ∧ after = _ := by simpa [eq_comm] using found
      simp
    · rename_i absent
      split at found
      · rename_i first last later
        obtain ⟨rfl, rfl⟩ : before = c :: first ∧ after = last := by simpa [eq_comm] using found
        cases before' with
        | nil => exact absurd ⟨after', by simpa using other.symm⟩ (isPrefixOf?_eq_none_iff.mp absent)
        | cons b bs =>
          obtain ⟨_, tail⟩ : c = b ∧ rest = bs ++ pattern ++ after' := by simpa using other
          simpa using ih later tail
      · simp at found

/-- There is a cut exactly where the pattern occurs. -/
theorem cut?_isSome_iff {pattern text : Text} : (cut? pattern text).isSome = true ↔ pattern <:+: text := by
  constructor
  · intro found
    obtain ⟨⟨before, after⟩, cut⟩ := Option.isSome_iff_exists.mp found
    exact ⟨before, after, (eq_of_cut?_eq_some cut).symm⟩
  · rintro ⟨before, after, rfl⟩
    induction before with
    | nil =>
      cases whole : pattern ++ after with
      | nil => simp_all [cut?]
      | cons c rest =>
        have here : pattern.isPrefixOf? (c :: rest) = some after := isPrefixOf?_eq_some_iff.mpr whole.symm
        simp [whole, cut?, here]
    | cons b bs ih =>
      obtain ⟨⟨first, last⟩, cut⟩ := Option.isSome_iff_exists.mp ih
      simp only [List.append_assoc] at cut
      simp only [List.cons_append, List.append_assoc, cut?, cut]
      split <;> rfl

theorem cut?_eq_none_iff {pattern text : Text} : cut? pattern text = none ↔ ¬ pattern <:+: text := by
  rw [← cut?_isSome_iff]; simp

/-- The cut is the left-most of all the ways to find the pattern in the text. -/
theorem cut?_eq_some_iff {pattern text before after : Text} :
    cut? pattern text = some (before, after) ↔
      text = before ++ pattern ++ after ∧
        ∀ before' after', text = before' ++ pattern ++ after' → before.length ≤ before'.length := by
  constructor
  · intro found
    exact ⟨eq_of_cut?_eq_some found, fun _ _ other => length_le_of_cut?_eq_some found other⟩
  · rintro ⟨whole, first⟩
    have occurs : pattern <:+: text := ⟨before, after, whole.symm⟩
    obtain ⟨⟨a, b⟩, cut⟩ := Option.isSome_iff_exists.mp (cut?_isSome_iff.mpr occurs)
    have shape := eq_of_cut?_eq_some cut
    have same : before.length = a.length :=
      Nat.le_antisymm (first a b shape) (length_le_of_cut?_eq_some cut whole)
    have equal := whole.symm.trans shape
    rw [List.append_assoc, List.append_assoc] at equal
    obtain ⟨rfl, rest⟩ := List.append_inj equal same
    rw [cut, List.append_cancel_left rest]

end Text
end Verdict
