import Verdict.Text.Pieces

/-!
# Where the copies of a pattern start

A text in which no copy of the pattern starts, not even one that ends in the text behind it, is left alone: the cut
and the pieces of both texts together are those of the second one, with the first in front.
-/
namespace Verdict.Text

/-- A copy of `pattern` starts in `text`, and may end in the text `rest` behind it. -/
def StartsIn (pattern text rest : Text) : Prop :=
  ∃ front back, text = front ++ back ∧ back ≠ [] ∧ pattern <+: back ++ rest

variable {pattern text rest : Text} {c : Char}

theorem startsIn_cons_iff : StartsIn pattern (c :: text) rest ↔
    pattern <+: c :: (text ++ rest) ∨ StartsIn pattern text rest := by
  constructor
  · rintro ⟨front, back, whole, nonempty, here⟩
    cases front with
    | nil =>
      obtain rfl : c :: text = back := whole
      exact .inl here
    | cons d front =>
      obtain ⟨rfl, tail⟩ : c = d ∧ text = front ++ back := by simpa using whole
      exact .inr ⟨front, back, tail, nonempty, here⟩
  · rintro (here | ⟨front, back, rfl, nonempty, later⟩)
    · exact ⟨[], c :: text, rfl, by simp, here⟩
    · exact ⟨c :: front, back, rfl, nonempty, later⟩

/-- What occurs in the two texts occurs in the second one, if it does not start in the first. -/
theorem occurs_append_iff (apart : ¬ StartsIn pattern text rest) :
    pattern <:+: text ++ rest ↔ pattern <:+: rest := by
  induction text with
  | nil => rfl
  | cons c text ih =>
    rw [startsIn_cons_iff, not_or] at apart
    rw [List.cons_append, List.infix_cons_iff, ih apart.2]
    simp [apart.1]

theorem cut?_append (apart : ¬ StartsIn pattern text rest) :
    cut? pattern (text ++ rest) = (cut? pattern rest).map fun (before, after) => (text ++ before, after) := by
  induction text with
  | nil => simp
  | cons c text ih =>
    rw [startsIn_cons_iff, not_or] at apart
    rw [List.cons_append, cut?, isPrefixOf?_eq_none_iff.mpr apart.1, ih apart.2]
    cases cut? pattern rest <;> simp

theorem pieces_append_eq (apart : ¬ StartsIn pattern text rest) :
    pieces pattern (text ++ rest) = (pieces pattern rest).modifyHead (text ++ ·) := by
  induction text with
  | nil => cases h : pieces pattern rest <;> simp [h]
  | cons c text ih =>
    rw [startsIn_cons_iff, not_or] at apart
    have nonempty : pattern ≠ [] := by
      rintro rfl
      exact apart.1 List.nil_prefix
    rw [List.cons_append, pieces_cons apart.1, ih apart.2]
    obtain ⟨piece, more, shape⟩ := List.exists_cons_of_ne_nil (pieces_ne_nil nonempty rest)
    simp [shape, extendHead]

/-- A copy that starts in the first text lies in it, or the boundary of the texts divides it. -/
theorem StartsIn.cases (starts : StartsIn pattern text rest) :
    pattern <:+: text ∨ ∃ before after, before ≠ [] ∧ after ≠ [] ∧ pattern = before ++ after ∧
      before <:+ text ∧ after <+: rest := by
  obtain ⟨front, back, rfl, nonempty, here⟩ := starts
  have inside : pattern <+: back → pattern <:+: front ++ back := fun h =>
    h.isInfix.trans (List.suffix_append front back).isInfix
  rcases List.prefix_or_prefix_of_prefix here (List.prefix_append back rest) with within | ⟨after, rfl⟩
  · exact .inl (inside within)
  · by_cases whole : after = []
    · exact .inl (inside (by simp [whole]))
    · exact .inr ⟨back, after, nonempty, whole, rfl, List.suffix_append front back,
        (List.prefix_append_right_inj back).mp here⟩

/-- A copy of two characters lies in the first text, or stands on both sides of the boundary. -/
theorem StartsIn.of_pair {p q : Char} (starts : StartsIn [p, q] text rest) :
    [p, q] <:+: text ∨ text.getLast? = some p ∧ rest.head? = some q := by
  rcases starts.cases with inside | ⟨before, after, nonempty, more, pair, ⟨front, rfl⟩, ⟨back, rfl⟩⟩
  · exact .inl inside
  · obtain ⟨rfl, rfl⟩ : before = [p] ∧ after = [q] := by
      rcases List.cons_eq_append_iff.mp pair with ⟨rfl, _⟩ | ⟨tail, rfl, second⟩
      · exact absurd rfl nonempty
      · rcases List.cons_eq_append_iff.mp second with ⟨rfl, rfl⟩ | ⟨_, rfl, split⟩
        · exact ⟨rfl, rfl⟩
        · exact absurd (List.append_eq_nil_iff.mp split.symm).2 more
    exact .inr (by simp)

theorem cut?_pattern (pattern rest : Text) : cut? pattern (pattern ++ rest) = some ([], rest) :=
  cut?_eq_some_iff.mpr ⟨rfl, fun _ _ _ => Nat.zero_le _⟩

/-- The cut at a copy behind a text in which none starts. -/
theorem cut?_append_pattern (apart : ¬ StartsIn pattern text (pattern ++ rest)) :
    cut? pattern (text ++ (pattern ++ rest)) = some (text, rest) := by
  rw [cut?_append apart, cut?_pattern]
  simp

/-! ## One character as the pattern -/

theorem takeWhile_append_cons (absent : c ∉ text) : (text ++ c :: rest).takeWhile (· ≠ c) = text := by
  have other : ∀ d ∈ text, decide (d ≠ c) = true := fun d mem => decide_eq_true fun same => absent (same ▸ mem)
  rw [List.takeWhile_append_of_pos other]
  simp

theorem dropWhile_append_cons (absent : c ∉ text) : (text ++ c :: rest).dropWhile (· ≠ c) = c :: rest := by
  have other : ∀ d ∈ text, decide (d ≠ c) = true := fun d mem => decide_eq_true fun same => absent (same ▸ mem)
  rw [List.dropWhile_append_of_pos other]
  simp

theorem not_startsIn_of_not_mem (absent : c ∉ text) : ¬ StartsIn [c] text rest := by
  rintro ⟨front, back, rfl, nonempty, here⟩
  cases back with
  | nil => exact nonempty rfl
  | cons d back =>
    obtain rfl : c = d := by simpa using here
    simp at absent

theorem cut?_cons_of_not_mem (absent : c ∉ text) : cut? [c] (text ++ c :: rest) = some (text, rest) :=
  cut?_append_pattern (not_startsIn_of_not_mem absent)

/-- A copy of a pattern without the character does not reach the character. -/
theorem not_startsIn_cons (absent : c ∉ pattern) (outside : ¬ pattern <:+: text) :
    ¬ StartsIn pattern text (c :: rest) := by
  intro starts
  rcases starts.cases with inside | ⟨first, last, _, nonempty, rfl, _, ⟨more, there⟩⟩
  · exact outside inside
  · obtain ⟨d, last, rfl⟩ := List.exists_cons_of_ne_nil nonempty
    obtain rfl : d = c := by simpa using congrArg List.head? there
    simp at absent

/-- A pattern without the character does not reach across it. -/
theorem occurs_cons_of_not_mem {before after : Text} (absent : c ∉ pattern)
    (occurs : pattern <:+: before ++ c :: after) : pattern <:+: before ∨ pattern <:+: after := by
  by_cases inside : pattern <:+: before
  · exact .inl inside
  · rw [occurs_append_iff (not_startsIn_cons absent inside), List.infix_cons_iff] at occurs
    rcases occurs with ⟨rest, here⟩ | later
    · cases pattern with
      | nil => exact .inr List.nil_infix
      | cons d pattern =>
        obtain rfl : d = c := by simpa using congrArg List.head? here
        simp at absent
    · exact .inr later

/-- A copy of the character ends a piece, wherever it stands. -/
theorem pieces_append_cons (text rest : Text) (c : Char) :
    pieces [c] (text ++ c :: rest) = pieces [c] text ++ pieces [c] rest := by
  have nonempty : [c] ≠ [] := by simp
  induction text with
  | nil => exact pieces_append nonempty rest
  | cons d text ih =>
    by_cases same : d = c
    · subst same
      have front := pieces_append nonempty text
      have whole := pieces_append nonempty (text ++ d :: rest)
      simp only [List.singleton_append] at front whole
      rw [List.cons_append, whole, front, ih, List.cons_append]
    · have absent : ∀ more, ¬ [c] <+: d :: more := fun more here => same (by simpa using here : c = d).symm
      rw [List.cons_append, pieces_cons (absent _), pieces_cons (absent _), ih]
      obtain ⟨piece, more, shape⟩ := List.exists_cons_of_ne_nil (pieces_ne_nil nonempty text)
      simp [shape, extendHead]

end Verdict.Text
