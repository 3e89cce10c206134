import Verdict.Proofs.Text.Copies
import Verdict.Text.Whitespace

/-!
# Trimming

White space around a text does not count once it is trimmed, and where a pattern without white space is concerned: the
cut of a trimmed text is the cut of the text, up to white space at the outer ends (`cut?_pad`).
-/
namespace Verdict.Text

variable {pattern text before after : Text}

theorem IsBlank.append (left : IsBlank before) (right : IsBlank after) : IsBlank (before ++ after) := by
  intro c mem
  rcases List.mem_append.mp mem with mem | mem
  · exact left c mem
  · exact right c mem

theorem IsBlank.of_subset {text part : Text} (blank : IsBlank text) (subset : part ⊆ text) : IsBlank part :=
  fun c mem => blank c (subset mem)

theorem trim_of_isBlank_left (blank : IsBlank before) (text : Text) : trim (before ++ text) = trim text := by
  rw [trim, trim, List.dropWhile_append_of_pos blank]

theorem trim_of_isBlank_right (blank : IsBlank after) (text : Text) : trim (text ++ after) = trim text := by
  by_cases all : IsBlank text
  · rw [trim_eq_nil_iff.mpr all, trim_eq_nil_iff.mpr (all.append blank)]
  · have nonempty : (text.dropWhile isWhitespace).isEmpty = false := by
      rw [List.isEmpty_eq_false_iff]
      exact fun dropped => all (dropWhile_eq_nil_iff.mp dropped)
    have back : ∀ c ∈ after.reverse, isWhitespace c = true := fun c mem => blank c (List.mem_reverse.mp mem)
    rw [trim, trim, List.dropWhile_append, nonempty, trimEnd, trimEnd]
    simp [List.dropWhile_append_of_pos back]

theorem trim_trim (text : Text) : trim (trim text) = trim text := by
  obtain ⟨before, after, left, right, whole⟩ := exists_trim_eq text
  have same := congrArg trim whole
  rw [trim_of_isBlank_right right, trim_of_isBlank_left left] at same
  exact same.symm

/-- A text with no white space at its ends is trimmed. -/
theorem trim_eq_self (first : ∀ c ∈ text.head?, isWhitespace c = false)
    (last : ∀ c ∈ text.getLast?, isWhitespace c = false) : trim text = text := by
  cases text with
  | nil => rfl
  | cons c rest =>
    have front : ¬ isWhitespace c = true := by simp [first c rfl]
    rw [trim, List.dropWhile_cons_of_neg front, trimEnd]
    obtain ⟨d, back, shape⟩ := List.exists_cons_of_ne_nil (l := (c :: rest).reverse) (by simp)
    have ends : (c :: rest).getLast? = some d := by rw [← List.head?_reverse, shape]; rfl
    have black : ¬ isWhitespace d = true := by simp [last d ends]
    rw [shape, List.dropWhile_cons_of_neg black, ← shape, List.reverse_reverse]

/-- A trimmed text does not begin with white space. -/
theorem isWhitespace_of_head?_trim {c : Char} (first : (trim text).head? = some c) : isWhitespace c = false := by
  obtain ⟨rest, shape⟩ := List.head?_eq_some_iff.mp first
  refine Bool.eq_false_iff.mpr fun white => ?_
  -- It would be trimmed again.
  have blank : IsBlank [c] := by simpa [IsBlank] using white
  have again : trim (c :: rest) = trim rest := trim_of_isBlank_left blank rest
  have shorter := (trim_occurs rest).length_le
  rw [← again, ← shape, trim_trim, shape, List.length_cons] at shorter
  omega

/-! ## Patterns without white space -/

/-- A pattern that is not empty and has no white space in it. -/
structure Black (pattern : Text) : Prop where
  nonempty : pattern ≠ []
  black : ∀ c ∈ pattern, isWhitespace c = false

theorem Black.not_occurs_blank (black : Black pattern) (blank : IsBlank text) : ¬ pattern <:+: text := by
  intro inside
  obtain ⟨p, ps, rfl⟩ := List.exists_cons_of_ne_nil black.nonempty
  have white := blank p (inside.subset (by simp))
  simp [black.black p (by simp)] at white

theorem Black.not_startsIn_blank (black : Black pattern) (blank : IsBlank before) (rest : Text) :
    ¬ StartsIn pattern before rest := by
  intro starts
  rcases starts.cases with inside | ⟨first, last, nonempty, _, rfl, here, _⟩
  · exact black.not_occurs_blank blank inside
  · obtain ⟨c, cs, rfl⟩ := List.exists_cons_of_ne_nil nonempty
    have white := blank c (here.subset (by simp))
    simp [black.black c (by simp)] at white

theorem Black.not_startsIn_of_blank (black : Black pattern) (absent : ¬ pattern <:+: text) (blank : IsBlank after) :
    ¬ StartsIn pattern text after := by
  intro starts
  rcases starts.cases with inside | ⟨first, last, _, nonempty, rfl, _, there⟩
  · exact absent inside
  · obtain ⟨c, cs, rfl⟩ := List.exists_cons_of_ne_nil nonempty
    have white := blank c (there.subset (by simp))
    simp [black.black c (by simp)] at white

/-- A pattern without white space occurs in a trimmed text where it occurs in the text. -/
theorem Black.occurs_trim_iff (black : Black pattern) (text : Text) : pattern <:+: trim text ↔ pattern <:+: text := by
  refine ⟨fun inside => inside.trans (trim_occurs text), fun inside => Decidable.byContradiction fun absent => ?_⟩
  obtain ⟨before, after, left, right, whole⟩ := exists_trim_eq text
  rw [whole, List.append_assoc, occurs_append_iff (black.not_startsIn_blank left _),
    occurs_append_iff (black.not_startsIn_of_blank absent right)] at inside
  exact black.not_occurs_blank right inside

/-- The cut stays where it is when the text goes on. -/
theorem cut?_append_right {first last : Text} (cut : cut? pattern text = some (first, last)) (more : Text) :
    cut? pattern (text ++ more) = some (first, last ++ more) := by
  obtain ⟨whole, left⟩ := cut?_eq_some_iff.mp cut
  refine cut?_eq_some_iff.mpr ⟨by simp [whole], fun before' after' other => ?_⟩
  by_cases far : first.length ≤ before'.length
  · exact far
  · -- A copy further left ends before the text does.
    have short : (before' ++ pattern).length ≤ text.length := by
      have size := congrArg List.length whole
      simp at size ⊢
      omega
    have front : before' ++ pattern <+: text :=
      List.prefix_of_prefix_length_le ⟨after', other.symm⟩ (List.prefix_append text more) short
    obtain ⟨rest, shape⟩ := front
    exact left before' rest shape.symm

/-- The cut of a text is that of the text between white space, with the white space at the outer ends. -/
theorem Black.cut?_pad (black : Black pattern) (left : IsBlank before) (right : IsBlank after) (text : Text) :
    cut? pattern (before ++ text ++ after) =
      (cut? pattern text).map fun (first, last) => (before ++ first, last ++ after) := by
  rw [List.append_assoc, cut?_append (black.not_startsIn_blank left _)]
  cases found : cut? pattern text with
  | some cut =>
    obtain ⟨first, last⟩ := cut
    rw [cut?_append_right found]
    rfl
  | none =>
    have absent := cut?_eq_none_iff.mp found
    have still : cut? pattern (text ++ after) = none := by
      rw [cut?_eq_none_iff, occurs_append_iff (black.not_startsIn_of_blank absent right)]
      exact black.not_occurs_blank right
    rw [still]
    rfl

end Verdict.Text
