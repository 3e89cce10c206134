import Verdict.Evaluation
import Verdict.Proofs.Group.WellGrouped
import Verdict.Proofs.Text.Replacing

/-!
# Groups give way to their values

What putting a word in place of every copy of a group does to the parentheses of the text. As many of one kind are
taken away as of the other (`count_substitute`), and what the text is with regard to its parentheses it is afterwards,
and the other way round: it matches or does not (`balanced_substitute_iff`), and it has an empty pair or has none
(`emptyPair_occurs_substitute_iff`).
-/
namespace Verdict

theorem Boolean.ungrouped_word (value : Bool) : Ungrouped (word value) := by
  cases value <;> decide

theorem Boolean.word_ne_nil (value : Bool) : word value ≠ [] := by
  cases value <;> simp [word]

variable {group text : Text}

theorem parenthesized_ne_nil (text : Text) : parenthesized text ≠ [] := by
  simp [parenthesized]

/-! ## Parts of a text -/

/-- No copy of a group reaches across an opening parenthesis. -/
theorem apart_open (plain : Ungrouped group) (a b : Text) : Text.Apart (parenthesized group) a ('(' :: b) := by
  intro before after whole nonempty more _ here
  -- The second part of a copy that is divided there begins with an opening parenthesis.
  obtain ⟨c, before, rfl⟩ := List.exists_cons_of_ne_nil nonempty
  obtain ⟨d, after, rfl⟩ := List.exists_cons_of_ne_nil more
  obtain rfl : d = '(' := (List.cons_prefix_cons.mp here).1
  have tail : group ++ [')'] = before ++ '(' :: after := by
    simp only [parenthesized, List.cons_append, List.cons.injEq] at whole
    exact whole.2
  have mem : '(' ∈ group ++ [')'] := by simp [tail]
  exact plain.1 (by simpa using mem)

theorem substitute_append_open (plain : Ungrouped group) (result : Bool) (a b : Text) :
    substitute group result (a ++ '(' :: b) = substitute group result a ++ substitute group result ('(' :: b) :=
  Text.replaceAll_append_of_apart (parenthesized_ne_nil group) (apart_open plain a b) _

/-- No copy of a group starts before the first closing parenthesis, apart from the one that ends there. -/
theorem substitute_append {front : Text} (open_ : ')' ∉ front) (plain : Ungrouped group) (result : Bool)
    (back : Text) :
    substitute group result (front ++ (parenthesized group ++ back)) =
      front ++ (Boolean.word result ++ substitute group result back) := by
  have kept : substitute group result front = front :=
    Text.replaceAll_of_not_occurs (fun inside => open_ (inside.subset (by simp [parenthesized]))) _
  have here : substitute group result (parenthesized group ++ back) =
      Boolean.word result ++ substitute group result back :=
    Text.replaceAll_append (parenthesized_ne_nil group) _ back
  have shape : parenthesized group ++ back = '(' :: (group ++ [')'] ++ back) := rfl
  rw [shape, substitute_append_open plain, ← shape, here, kept]

/-- An empty pair is no copy of a group that holds something, and no part of one. -/
theorem substitute_append_emptyPair (plain : Ungrouped group) (nonempty : group ≠ []) (result : Bool) (a b : Text) :
    substitute group result (a ++ (emptyPair ++ b)) =
      substitute group result a ++ (emptyPair ++ substitute group result b) := by
  obtain ⟨c, rest, rfl⟩ := List.exists_cons_of_ne_nil nonempty
  have first : ¬ parenthesized (c :: rest) <+: '(' :: ')' :: b := by
    intro here
    obtain ⟨rfl, _⟩ : c = ')' ∧ rest ++ [')'] <+: b := by simpa [parenthesized] using here
    exact plain.2 (by simp)
  have second : ¬ parenthesized (c :: rest) <+: ')' :: b := by
    intro here
    simp [parenthesized] at here
  have pair : substitute (c :: rest) result ('(' :: ')' :: b) = '(' :: ')' :: substitute (c :: rest) result b := by
    rw [substitute, Text.replaceAll_cons first, Text.replaceAll_cons second, substitute]
  have shape : emptyPair ++ b = '(' :: ')' :: b := rfl
  rw [shape, substitute_append_open plain, pair]
  rfl

/-! ## Numbers of parentheses -/

/-- One parenthesis of each kind is taken away for each copy. -/
theorem count_substitute (plain : Ungrouped group) (result : Bool) (text : Text) :
    (substitute group result text).count '(' + Text.copies (parenthesized group) text = text.count '(' ∧
      (substitute group result text).count ')' + Text.copies (parenthesized group) text = text.count ')' := by
  have word := Boolean.ungrouped_word result
  have opens := Text.count_replaceAll (parenthesized_ne_nil group) (Boolean.word result) '(' text
  have closes := Text.count_replaceAll (parenthesized_ne_nil group) (Boolean.word result) ')' text
  have one : (parenthesized group).count '(' = 1 ∧ (parenthesized group).count ')' = 1 := by
    simp [parenthesized, List.count_eq_zero.mpr plain.1, List.count_eq_zero.mpr plain.2]
  rw [one.1, List.count_eq_zero.mpr word.1] at opens
  rw [one.2, List.count_eq_zero.mpr word.2] at closes
  simpa [substitute] using And.intro opens closes

/-! ## Matching parentheses -/

theorem depthAfter?_replaceAll {pattern new : Text} (nonempty : pattern ≠ []) (old : Balanced pattern)
    (fresh : Balanced new) (depth : Nat) (text : Text) :
    depthAfter? depth (Text.replaceAll pattern new text) = depthAfter? depth text := by
  induction text using Text.pieces_induction nonempty generalizing depth with
  | nil => simp
  | copy rest ih =>
    rw [Text.replaceAll_append nonempty, depthAfter?_append, depthAfter?_append, old.depthAfter?_eq,
      fresh.depthAfter?_eq]
    exact ih depth
  | char c rest absent ih =>
    rw [Text.replaceAll_cons absent, depthAfter?, depthAfter?, ih, ih, ih]

theorem balanced_substitute_iff (plain : Ungrouped group) (result : Bool) :
    Balanced (substitute group result text) ↔ Balanced text := by
  have word := Boolean.ungrouped_word result
  rw [balanced_iff, balanced_iff, substitute,
    depthAfter?_replaceAll (parenthesized_ne_nil group) plain.balanced.parenthesized word.balanced]

/-! ## Empty pairs -/

/-- What stands at the front after replacing, and is not new, stood there before. -/
theorem Text.head?_of_head?_replaceAll {pattern new text : Text} {c : Char} (nonempty : pattern ≠ []) (fresh : new ≠ [])
    (absent : c ∉ new) (first : (replaceAll pattern new text).head? = some c) :
    text.head? = some c := by
  cases text with
  | nil => simp at first
  | cons d rest =>
    by_cases here : pattern <+: d :: rest
    · obtain ⟨tail, whole⟩ := here
      rw [← whole, replaceAll_append nonempty] at first
      obtain ⟨e, more, rfl⟩ := List.exists_cons_of_ne_nil fresh
      simp_all
    · rw [replaceAll_cons here] at first
      exact first

theorem emptyPair_occurs_of_replaceAll {pattern new text : Text} (nonempty : pattern ≠ []) (plain : Ungrouped new)
    (fresh : new ≠ []) (occurs : emptyPair <:+: Text.replaceAll pattern new text) : emptyPair <:+: text := by
  induction text using Text.pieces_induction nonempty with
  | nil => simpa using occurs
  | copy rest ih =>
    rw [Text.replaceAll_append nonempty, Text.occurs_append_iff (not_startsIn_emptyPair_of_not_mem plain.1)] at occurs
    exact (ih occurs).trans (List.suffix_append pattern rest).isInfix
  | char c rest absent ih =>
    rw [Text.replaceAll_cons absent, List.infix_cons_iff] at occurs
    rw [List.infix_cons_iff]
    rcases occurs with ⟨after, here⟩ | later
    · obtain ⟨rfl, tail⟩ : '(' = c ∧ ')' :: after = Text.replaceAll pattern new rest := by
        simpa [emptyPair] using here
      have second := Text.head?_of_head?_replaceAll nonempty fresh plain.2 (congrArg List.head? tail.symm)
      obtain ⟨back, rfl⟩ := List.head?_eq_some_iff.mp second
      exact .inl ⟨back, rfl⟩
    · exact .inr (ih later)

theorem emptyPair_occurs_substitute_iff (plain : Ungrouped group) (nonempty : group ≠ []) (result : Bool) :
    emptyPair <:+: substitute group result text ↔ emptyPair <:+: text := by
  constructor
  · exact emptyPair_occurs_of_replaceAll (parenthesized_ne_nil group) (Boolean.ungrouped_word result)
      (Boolean.word_ne_nil result)
  · rintro ⟨before, after, rfl⟩
    rw [List.append_assoc, substitute_append_emptyPair plain nonempty]
    exact ⟨_, _, List.append_assoc _ _ _⟩

/-- The groups of a text stay matched and filled when one of them gives way to its value. -/
theorem WellGrouped.substitute (plain : Ungrouped group) (result : Bool) (grouped : WellGrouped text) :
    WellGrouped (substitute group result text) := by
  refine ⟨(balanced_substitute_iff plain result).mpr grouped.1, fun occurs => grouped.2 ?_⟩
  exact emptyPair_occurs_of_replaceAll (parenthesized_ne_nil group) (Boolean.ungrouped_word result)
    (Boolean.word_ne_nil result) occurs

end Verdict
