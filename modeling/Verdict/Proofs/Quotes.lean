import Verdict.Comparison

/-!
# Quotes in compared strings

A quote is a character of its own in every form in which strings are compared: it composes with nothing before it and
with nothing after it (`Comparison.form_append_quote`). Strings are the same with quotes around them where they are
the same without.
-/
namespace Verdict.Unicode

/-- A quote is a starter. -/
def quote : Classed :=
  (0, '"')

variable {front back : List Classed}

/-! ## What composes with a quote -/

theorem pairComposite?_eq_none {base mark : Nat} (apart : base < 0x003C ∨ mark < 0x0300) :
    pairComposite? base mark = none := by
  refine Option.bind_eq_none_iff.mpr ?_
  rintro ⟨m, composites⟩ row
  refine Option.bind_eq_none_iff.mpr ?_
  rintro ⟨b, composite⟩ column
  have rightMark : m = mark := by simpa using List.find?_some row
  have rightBase : b = base := by simpa using List.find?_some column
  obtain ⟨high, bases⟩ := compositions_bounds _ (List.mem_of_find?_eq_some row)
  have low := (bases _ (List.mem_of_find?_eq_some column)).1
  simp only at high low
  omega

theorem composite?_eq_none {base mark : Char} (apart : base.toNat < 0x003C ∨ mark.toNat < 0x0300) :
    composite? base mark = none := by
  have hangul : Hangul.composite? base.toNat mark.toNat = none := by
    unfold Hangul.composite? Hangul.blocks Hangul.leadBase Hangul.vowelBase Hangul.trailBase Hangul.blockBase
      Hangul.leads Hangul.vowels Hangul.trails
    rw [if_neg (by omega), if_neg (by omega)]
  rw [composite?, hangul, pairComposite?_eq_none apart]
  rfl

theorem composite?_quote_left (mark : Char) : composite? '"' mark = none :=
  composite?_eq_none (.inl (by decide))

theorem composite?_quote_right (base : Char) : composite? base '"' = none :=
  composite?_eq_none (.inr (by decide))

/-! ## The steps of the normalization -/

theorem decompose_append_quote (front back : Text) :
    decompose (front ++ '"' :: back) = decompose front ++ '"' :: decompose back := by
  have whole : (partsAfter fullSteps '"'.toNat).map Char.ofNat = ['"'] := by
    rw [partsAfter_of_lt (by decide)]
    rfl
  rw [decompose, List.flatMap_append, List.flatMap_cons, whole]
  rfl

theorem place_append_quote (c : Classed) (front back : List Classed) :
    place c (front ++ quote :: back) = place c front ++ quote :: back := by
  induction front with
  | nil => simp [place, quote]
  | cons d front ih =>
    rw [List.cons_append, place, place, ih]
    split <;> rfl

/-- A quote ends the marks behind the starter before it. -/
theorem reorder_append_quote (front back : List Classed) :
    reorder (front ++ quote :: back) = reorder front ++ quote :: reorder back := by
  induction front with
  | nil =>
    have first : ∀ text, place quote text = quote :: text := by
      intro text
      cases text with
      | nil => rfl
      | cons d text => simp [place, quote]
    exact first _
  | cons c front ih =>
    show place c (reorder (front ++ quote :: back)) = place c (reorder front) ++ quote :: reorder back
    rw [ih, place_append_quote]

theorem recomposeAfter_append_quote (starter : Char) (marks front back : List Classed) :
    recomposeAfter starter marks (front ++ quote :: back) =
      recomposeAfter starter marks front ++ recomposeAfter '"' [] back := by
  induction front generalizing starter marks with
  | nil => simp [recomposeAfter, quote, composite?_quote_right]
  | cons c front ih =>
    rw [List.cons_append, recomposeAfter, recomposeAfter]
    split
    · exact ih _ _
    · rw [ih, ih]
      split <;> simp

theorem recomposeAfter_quote (marks back : List Classed) :
    recomposeAfter '"' marks back = '"' :: marks.reverse.map Prod.snd ++ recompose back := by
  induction back generalizing marks with
  | nil => simp [recomposeAfter, recompose]
  | cons c back ih =>
    rw [recomposeAfter, recompose, composite?_quote_left, ite_self]
    by_cases starter : c.1 = 0
    · simp [starter]
    · simp [starter, ih]

theorem recompose_append_quote (front back : List Classed) :
    recompose (front ++ quote :: back) = recompose front ++ '"' :: recompose back := by
  have quoted : recomposeAfter '"' [] back = '"' :: recompose back := recomposeAfter_quote [] back
  induction front with
  | nil => rw [← quoted]; rfl
  | cons c front ih =>
    rw [List.cons_append, recompose, recompose, ih]
    split
    · rw [recomposeAfter_append_quote, quoted]
    · rfl

theorem nfc_append_quote (front back : Text) : nfc (front ++ '"' :: back) = nfc front ++ '"' :: nfc back := by
  have starter : classed '"' = quote := by
    rw [classed, isStarter_of_lt (by decide)]
    rfl
  rw [nfc, decompose_append_quote, List.map_append, List.map_cons, starter, reorder_append_quote,
    recompose_append_quote]
  rfl

end Verdict.Unicode

namespace Verdict.Comparison

/-- A quote keeps its place in the form of a string, between the forms of what is around it. -/
theorem form_append_quote (mode : Comparison) (front back : Text) :
    mode.form (front ++ '"' :: back) = mode.form front ++ '"' :: mode.form back := by
  cases mode with
  | ordinal => rfl
  | caseInsensitive =>
    have same : Unicode.lowercase '"' = ['"'] := by decide +kernel
    simp [form, same]
  | cultureAware => exact Unicode.nfc_append_quote front back

/-- Quotes around strings do not count when the strings are compared. -/
theorem equals_quoted (mode : Comparison) (a b : Text) :
    mode.equals ('"' :: a ++ ['"']) ('"' :: b ++ ['"']) = mode.equals a b := by
  have quoted : ∀ text, mode.form ('"' :: text ++ ['"']) =
      mode.form [] ++ '"' :: (mode.form text ++ '"' :: mode.form []) := by
    intro text
    rw [← form_append_quote, ← form_append_quote]
    rfl
  rw [Bool.eq_iff_iff, equals_iff, equals_iff, quoted, quoted]
  simp

end Verdict.Comparison
