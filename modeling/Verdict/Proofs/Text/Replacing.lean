import Verdict.Proofs.Text.Copies

/-!
# Replacing copies

What replacing the copies of a pattern does to a text as a whole: to its size, as long as sizes add up
(`size_replaceAll`), to what stands between the copies (`exists_of_replaceAll_eq`), and to the parts of the text, if no
copy reaches from one into the other (`replaceAll_append_of_apart`).
-/
namespace Verdict.Text

variable {pattern a b : Text}

/-! ## The number of copies -/

/-- How many copies of a pattern are replaced in a text. -/
def copies (pattern text : Text) : Nat :=
  (pieces pattern text).length - 1

@[simp] theorem copies_nil (pattern : Text) : copies pattern [] = 0 := rfl

theorem copies_append (nonempty : pattern ≠ []) (rest : Text) :
    copies pattern (pattern ++ rest) = copies pattern rest + 1 := by
  have positive := List.length_pos_iff.mpr (pieces_ne_nil nonempty rest)
  rw [copies, copies, pieces_append nonempty, List.length_cons]
  omega

theorem copies_cons {c : Char} {rest : Text} (absent : ¬ pattern <+: c :: rest) :
    copies pattern (c :: rest) = copies pattern rest := by
  have nonempty : pattern ≠ [] := by
    rintro rfl
    exact absent List.nil_prefix
  obtain ⟨piece, more, shape⟩ := List.exists_cons_of_ne_nil (pieces_ne_nil nonempty rest)
  rw [copies, copies, pieces_cons absent, shape]
  rfl

/-- A size that adds up over the parts of a text: each copy takes the size of the pattern away, and brings that of the
    new text in. -/
theorem size_replaceAll {size : Text → Nat} (add : ∀ a b, size (a ++ b) = size a + size b) (nonempty : pattern ≠ [])
    (new text : Text) :
    size (replaceAll pattern new text) + copies pattern text * size pattern =
      size text + copies pattern text * size new := by
  induction text using pieces_induction nonempty with
  | nil => simp
  | copy rest ih =>
    rw [replaceAll_append nonempty, copies_append nonempty, add, add, Nat.succ_mul, Nat.succ_mul]
    omega
  | char c rest absent ih =>
    have kept := add [c] (replaceAll pattern new rest)
    have here := add [c] rest
    rw [List.singleton_append] at kept here
    rw [replaceAll_cons absent, copies_cons absent, kept, here]
    omega

theorem size_replaceAll_le {size : Text → Nat} (add : ∀ a b, size (a ++ b) = size a + size b) (nonempty : pattern ≠ [])
    {new : Text} (smaller : size new ≤ size pattern) (text : Text) :
    size (replaceAll pattern new text) ≤ size text := by
  have whole := size_replaceAll add nonempty new text
  have less := Nat.mul_le_mul_left (copies pattern text) smaller
  omega

/-- Each copy takes the characters of the pattern away, and brings those of the new text in. -/
theorem count_replaceAll (nonempty : pattern ≠ []) (new : Text) (c : Char) (text : Text) :
    (replaceAll pattern new text).count c + copies pattern text * pattern.count c =
      text.count c + copies pattern text * new.count c :=
  size_replaceAll (fun _ _ => List.count_append) nonempty new text

/-- What is there after replacing was there before, or it is new. -/
theorem mem_of_mem_replaceAll (nonempty : pattern ≠ []) {new text : Text} {c : Char}
    (mem : c ∈ replaceAll pattern new text) : c ∈ text ∨ c ∈ new := by
  induction text using pieces_induction nonempty with
  | nil => simp at mem
  | copy rest ih =>
    rw [replaceAll_append nonempty] at mem
    rcases List.mem_append.mp mem with fresh | later
    · exact .inr fresh
    · exact (ih later).imp_left (List.mem_append_right _)
  | char d rest absent ih =>
    rw [replaceAll_cons absent] at mem
    rcases List.mem_cons.mp mem with rfl | later
    · exact .inl List.mem_cons_self
    · exact (ih later).imp_left (List.mem_cons_of_mem _)

/-! ## What is kept -/

/-- What stands at the front after replacing, and shares no character with the new text, stood there before. -/
theorem exists_of_replaceAll_eq_append (nonempty : pattern ≠ []) {new mark text after : Text} (fresh : new ≠ [])
    (foreign : ∀ c ∈ mark, c ∉ new) (here : replaceAll pattern new text = mark ++ after) :
    ∃ last, text = mark ++ last ∧ after = replaceAll pattern new last ∧ copies pattern text = copies pattern last := by
  induction mark generalizing text with
  | nil => exact ⟨text, rfl, here.symm, rfl⟩
  | cons c mark ih =>
    by_cases copied : pattern <+: text
    · obtain ⟨rest, rfl⟩ := copied
      obtain ⟨d, more, rfl⟩ := List.exists_cons_of_ne_nil fresh
      rw [replaceAll_append nonempty] at here
      obtain rfl : d = c := (List.cons.inj here).1
      exact absurd List.mem_cons_self (foreign d List.mem_cons_self)
    · cases text with
      | nil => simp at here
      | cons d rest =>
        rw [replaceAll_cons copied] at here
        obtain ⟨rfl, tail⟩ := List.cons.inj here
        obtain ⟨last, rfl, same, number⟩ := ih (fun c mem => foreign c (List.mem_cons_of_mem _ mem)) tail
        exact ⟨last, rfl, same, (copies_cons copied).trans number⟩

/-- What stands anywhere after replacing, and shares no character with the new text, stood in the text before, with each
    copy of the pattern in front of it or behind it. -/
theorem exists_of_replaceAll_eq (nonempty : pattern ≠ []) {new mark text before after : Text} (fresh : new ≠ [])
    (marked : mark ≠ []) (foreign : ∀ c ∈ mark, c ∉ new)
    (here : replaceAll pattern new text = before ++ (mark ++ after)) :
    ∃ first last, text = first ++ (mark ++ last) ∧ before = replaceAll pattern new first ∧
      after = replaceAll pattern new last ∧ copies pattern text = copies pattern first + copies pattern last := by
  induction text using pieces_induction nonempty generalizing before with
  | nil => simp [marked] at here
  | copy rest ih =>
    rw [replaceAll_append nonempty] at here
    -- The mark begins behind the new text, for it does not begin with a character of it.
    have behind : ∃ more, before = new ++ more ∧ replaceAll pattern new rest = more ++ (mark ++ after) := by
      rcases List.append_eq_append_iff.mp here with ⟨more, shape, tail⟩ | ⟨more, shape, tail⟩
      · exact ⟨more, shape, tail⟩
      · cases more with
        | nil => exact ⟨[], by simpa using shape.symm, by simpa using tail.symm⟩
        | cons d more =>
          obtain ⟨c, mark, rfl⟩ := List.exists_cons_of_ne_nil marked
          obtain rfl : c = d := (List.cons.inj tail).1
          exact absurd (by simp [shape]) (foreign c List.mem_cons_self)
    obtain ⟨more, rfl, tail⟩ := behind
    obtain ⟨first, last, rfl, rfl, rfl, number⟩ := ih tail
    refine ⟨pattern ++ first, last, by simp, (replaceAll_append nonempty new first).symm, rfl, ?_⟩
    rw [copies_append nonempty, copies_append nonempty, number]
    omega
  | char c rest absent ih =>
    cases before with
    | nil =>
      obtain ⟨last, shape, same, number⟩ := exists_of_replaceAll_eq_append nonempty fresh foreign here
      exact ⟨[], last, shape, by simp, same, by simpa using number⟩
    | cons d before =>
      rw [replaceAll_cons absent] at here
      obtain ⟨rfl, tail⟩ := List.cons.inj here
      obtain ⟨first, last, rfl, rfl, rfl, number⟩ := ih tail
      have still : ¬ pattern <+: c :: first := fun copied => absent (copied.trans ⟨mark ++ last, rfl⟩)
      refine ⟨c :: first, last, rfl, (replaceAll_cons still new).symm, rfl, ?_⟩
      rw [copies_cons absent, copies_cons still, number]

/-! ## Parts of a text -/

/-- No copy of the pattern reaches from the first text into the second one. -/
def Apart (pattern a b : Text) : Prop :=
  ∀ before after, pattern = before ++ after → before ≠ [] → after ≠ [] → before <:+ a → ¬ after <+: b

theorem Apart.of_suffix {rest : Text} (apart : Apart pattern a b) (suffix : rest <:+ a) : Apart pattern rest b :=
  fun before after whole nonempty more ends => apart before after whole nonempty more (ends.trans suffix)

/-- The copies in two texts are replaced on their own. -/
theorem replaceAll_append_of_apart (nonempty : pattern ≠ []) (apart : Apart pattern a b) (new : Text) :
    replaceAll pattern new (a ++ b) = replaceAll pattern new a ++ replaceAll pattern new b := by
  induction a using pieces_induction nonempty with
  | nil => simp
  | copy rest ih =>
    rw [List.append_assoc, replaceAll_append nonempty, replaceAll_append nonempty,
      ih (apart.of_suffix (List.suffix_append _ _)), List.append_assoc]
  | char c rest absent ih =>
    have still : ¬ pattern <+: c :: (rest ++ b) := by
      intro here
      rcases List.prefix_or_prefix_of_prefix here (List.prefix_append (c :: rest) b) with inside | ⟨after, whole⟩
      · exact absent inside
      · -- The copy begins at the character and ends in the second text.
        have more : after ≠ [] := by
          rintro rfl
          exact absent ⟨[], by simpa using whole.symm⟩
        rw [← whole] at here
        exact apart (c :: rest) after whole.symm (by simp) more (List.suffix_refl _)
          ((List.prefix_append_right_inj (c :: rest)).mp here)
    rw [List.cons_append, replaceAll_cons still, replaceAll_cons absent,
      ih (apart.of_suffix (List.suffix_cons c rest)), List.cons_append]

end Verdict.Text
