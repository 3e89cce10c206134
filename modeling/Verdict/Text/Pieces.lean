import Verdict.Text.Basic

/-!
# Pieces of a text

A text is cut at every copy of a pattern, from left to right, and the copies do not overlap. The pieces joined by the
pattern are the text (`intercalate_pieces`); joined by another text they are the text with every copy replaced
(`replaceAll`). Replacing a pattern that occurs, by a text with fewer copies of a character, leaves fewer copies of
that character (`count_replaceAll_lt`).
-/
namespace Verdict.Text

/-! ## Cutting at every copy -/

/-- The pieces with a character in front of the first one. -/
def extendHead (c : Char) : List Text → List Text
  | [] => [[c]]
  | piece :: pieces => (c :: piece) :: pieces

/-- The pieces of the text behind the next `skip` characters. -/
def piecesFrom (pattern : Text) : (skip : Nat) → Text → List Text
  | _, [] => [[]]
  | skip + 1, _ :: rest => piecesFrom pattern skip rest
  | 0, c :: rest =>
    if pattern.isPrefixOf (c :: rest) then [] :: piecesFrom pattern (pattern.length - 1) rest
    else extendHead c (piecesFrom pattern 0 rest)

/-- What stands between the copies of `pattern` in a text. -/
def pieces (pattern text : Text) : List Text :=
  piecesFrom pattern 0 text

theorem piecesFrom_eq (pattern : Text) (skip : Nat) (text : Text) :
    piecesFrom pattern skip text = pieces pattern (text.drop skip) := by
  induction text generalizing skip with
  | nil => cases skip <;> simp [pieces, piecesFrom]
  | cons c rest ih =>
    cases skip with
    | zero => rfl
    | succ skip => simpa [piecesFrom] using ih skip

@[simp] theorem pieces_nil (pattern : Text) : pieces pattern [] = [[]] := rfl

/-- A copy at the front ends an empty piece, and the search goes on behind it. -/
theorem pieces_append {pattern : Text} (nonempty : pattern ≠ []) (rest : Text) :
    pieces pattern (pattern ++ rest) = [] :: pieces pattern rest := by
  cases pattern with
  | nil => exact absurd rfl nonempty
  | cons p ps =>
    have here : (p :: ps).isPrefixOf (p :: (ps ++ rest)) = true :=
      List.isPrefixOf_iff_prefix.mpr ⟨rest, rfl⟩
    rw [List.cons_append, pieces, piecesFrom, if_pos here, piecesFrom_eq]
    simp

/-- A character at which no copy starts belongs to the first piece. -/
theorem pieces_cons {pattern rest : Text} {c : Char} (absent : ¬ pattern <+: c :: rest) :
    pieces pattern (c :: rest) = extendHead c (pieces pattern rest) := by
  have miss : ¬ pattern.isPrefixOf (c :: rest) = true := fun h => absent (List.isPrefixOf_iff_prefix.mp h)
  rw [pieces, piecesFrom, if_neg miss, pieces]

/-- What holds of the empty text, and is kept by a copy of the pattern in front and by any other character in front,
    holds of every text. -/
theorem pieces_induction {motive : Text → Prop} {pattern : Text} (nonempty : pattern ≠ []) (nil : motive [])
    (copy : ∀ rest, motive rest → motive (pattern ++ rest))
    (char : ∀ c rest, ¬ pattern <+: c :: rest → motive rest → motive (c :: rest)) (text : Text) : motive text := by
  induction size : text.length using Nat.strongRecOn generalizing text with
  | _ n ih =>
    subst size
    by_cases here : pattern <+: text
    · obtain ⟨rest, rfl⟩ := here
      have positive := List.length_pos_iff.mpr nonempty
      exact copy rest (ih _ (by simp; omega) rest rfl)
    · cases text with
      | nil => exact nil
      | cons c rest => exact char c rest here (ih rest.length (by simp) rest rfl)

theorem pieces_ne_nil {pattern : Text} (nonempty : pattern ≠ []) (text : Text) : pieces pattern text ≠ [] := by
  induction text using pieces_induction nonempty with
  | nil => simp
  | copy rest _ => simp [pieces_append nonempty]
  | char c rest absent _ =>
    rw [pieces_cons absent]
    cases pieces pattern rest <;> simp [extendHead]

/-- A text without the pattern is its only piece. -/
theorem pieces_of_not_occurs {pattern text : Text} (absent : ¬ pattern <:+: text) : pieces pattern text = [text] := by
  induction text with
  | nil => rfl
  | cons c rest ih =>
    rw [pieces_cons fun h => absent h.isInfix, ih fun h => absent (h.trans (List.suffix_cons c rest).isInfix)]
    rfl

/-! ## Replacing every copy -/

/-- The text with `new` in place of every copy of `pattern`. The new text is not searched again. -/
def replaceAll (pattern new text : Text) : Text :=
  new.intercalate (pieces pattern text)

@[simp] theorem replaceAll_nil (pattern new : Text) : replaceAll pattern new [] = [] := by
  simp [replaceAll, List.intercalate]

/-- A copy at the front is replaced. -/
theorem replaceAll_append {pattern : Text} (nonempty : pattern ≠ []) (new rest : Text) :
    replaceAll pattern new (pattern ++ rest) = new ++ replaceAll pattern new rest := by
  rw [replaceAll, replaceAll, pieces_append nonempty]
  obtain ⟨piece, more, shape⟩ := List.exists_cons_of_ne_nil (pieces_ne_nil nonempty rest)
  simp [shape, List.intercalate]

/-- A character at which no copy starts is kept. -/
theorem replaceAll_cons {pattern rest : Text} {c : Char} (absent : ¬ pattern <+: c :: rest) (new : Text) :
    replaceAll pattern new (c :: rest) = c :: replaceAll pattern new rest := by
  rw [replaceAll, replaceAll, pieces_cons absent]
  cases pieces pattern rest with
  | nil => simp [extendHead, List.intercalate]
  | cons piece more => cases more <;> simp [extendHead, List.intercalate]

/-- The pieces joined by the pattern are the text. -/
theorem intercalate_pieces {pattern : Text} (nonempty : pattern ≠ []) (text : Text) :
    pattern.intercalate (pieces pattern text) = text := by
  change replaceAll pattern pattern text = text
  induction text using pieces_induction nonempty with
  | nil => simp
  | copy rest ih => rw [replaceAll_append nonempty, ih]
  | char c rest absent ih => rw [replaceAll_cons absent, ih]

/-- A text without the pattern stays as it is. -/
theorem replaceAll_of_not_occurs {pattern text : Text} (absent : ¬ pattern <:+: text) (new : Text) :
    replaceAll pattern new text = text := by
  simp [replaceAll, pieces_of_not_occurs absent, List.intercalate]

/-- Replacing brings in no more copies of a character than it takes away, if the new text has no more of them
    than the pattern. -/
theorem count_replaceAll_le {pattern new : Text} {c : Char} (nonempty : pattern ≠ [])
    (fewer : new.count c ≤ pattern.count c) (text : Text) :
    (replaceAll pattern new text).count c ≤ text.count c := by
  induction text using pieces_induction nonempty with
  | nil => simp
  | copy rest ih =>
    rw [replaceAll_append nonempty]
    simp only [List.count_append]
    omega
  | char d rest absent ih =>
    rw [replaceAll_cons absent]
    simp only [List.count_cons]
    omega

/-- Replacing a pattern that occurs, by a text with fewer copies of a character, leaves fewer copies of it. -/
theorem count_replaceAll_lt {pattern new : Text} {c : Char} (fewer : new.count c < pattern.count c) {text : Text}
    (occurs : pattern <:+: text) : (replaceAll pattern new text).count c < text.count c := by
  have nonempty : pattern ≠ [] := by rintro rfl; simp at fewer
  induction text with
  | nil => exact absurd (List.infix_nil.mp occurs) nonempty
  | cons d rest ih =>
    by_cases here : pattern <+: d :: rest
    · obtain ⟨tail, whole⟩ := here
      have kept := count_replaceAll_le nonempty (Nat.le_of_lt fewer) tail
      rw [← whole, replaceAll_append nonempty]
      simp only [List.count_append]
      omega
    · have later := ih ((List.infix_cons_iff.mp occurs).resolve_left here)
      rw [replaceAll_cons here]
      simp only [List.count_cons]
      omega

/-! ## One character as the pattern -/

/-- A character and the piece behind it stand in the text behind that character. -/
theorem cons_occurs_of_mem_pieces {c : Char} {text piece : Text} (mem : piece ∈ pieces [c] text) :
    c :: piece <:+: c :: text := by
  have joined : ∀ list : List Text, list ≠ [] →
      c :: [c].intercalate list = (list.map fun piece => c :: piece).flatten := by
    intro list nonempty
    induction list with
    | nil => exact absurd rfl nonempty
    | cons first more ih =>
      cases more with
      | nil => simp [List.intercalate]
      | cons second others => simpa [List.intercalate] using ih (by simp)
  have whole := joined _ (pieces_ne_nil (List.cons_ne_nil c []) text)
  rw [intercalate_pieces (List.cons_ne_nil c [])] at whole
  obtain ⟨before, after, split⟩ := List.append_of_mem mem
  rw [whole, split]
  exact ⟨(before.map fun piece => c :: piece).flatten, (after.map fun piece => c :: piece).flatten, by simp⟩

end Verdict.Text
