import Verdict.Proofs.Errors

/-!
# What becomes of a text that is to be a truth value

There are three outcomes, and how the text is written tells which one it is: negations and a word, negations alone, or
negations and anything else. The negations reach as far as they can (`LongestNegations`), and a truth value is written
with the same negations and white space wherever it is written the same (`Spelling.ext_print`).
-/
namespace Verdict.Boolean

variable {text front rest : Text} {count : Nat}

/-! ## The longest front of negations -/

/-- A front of a text consists of negations, and no longer one does. -/
structure LongestNegations (front text : Text) : Prop where
  negated : ∃ count, Negations count front
  before : front <+: text
  longest : ∀ count other, Negations count other → other <+: text → other.length ≤ front.length

/-- What is left behind the negations stands behind any front of negations. -/
theorem length_le_of_negations (counted : negations 0 text = (count, rest)) {more : Nat} {other tail : Text}
    (negated : Negations more other) (whole : text = other ++ tail) : rest.length ≤ tail.length := by
  obtain ⟨space, _, between, left, _, _, _, shape, _, known⟩ := exists_negations_eq (0 + more) tail
  rw [whole, negations_append negated, known] at counted
  obtain ⟨_, rfl⟩ := Prod.mk.inj counted
  exact shape ▸ (List.suffix_append (space ++ between) left).length_le

theorem longestNegations (negated : Negations count front) (settled : Settled count rest) :
    LongestNegations front (front ++ rest) := by
  have counted : negations 0 (front ++ rest) = (count, rest) := negations_eq_iff.mpr ⟨front, negated, rfl, settled⟩
  refine ⟨⟨count, negated⟩, List.prefix_append front rest, fun more other also before => ?_⟩
  obtain ⟨tail, whole⟩ := before
  have shorter := length_le_of_negations counted also whole.symm
  have size := congrArg List.length whole
  simp only [List.length_append] at size
  omega

/-- Nothing is left behind the negations of a text that consists of negations. -/
theorem Negations.counted (negated : Negations count text) : negations 0 text = (count, []) :=
  negations_eq_iff.mpr ⟨text, negated, (List.append_nil text).symm, by simp [Settled]⟩

theorem Negations.ofText_eq (negated : Negations count (Text.trim text)) :
    ofText text = .error (.emptyValue (Text.trim text)) := by
  simp [ofText, negated.counted]

/-! ## One way to write a truth value -/

namespace Spelling

/-- The white space behind a negation ends where the next negation stands. -/
theorem takeWhile_isWhitespace_append {space : Text} (blank : Text.IsBlank space) (spaces : List Text) :
    (space ++ spaces.flatMap fun other => '!' :: other).takeWhile Text.isWhitespace = space := by
  rw [List.takeWhile_append_of_pos blank]
  cases spaces with
  | nil => simp
  | cons other spaces =>
    have bang : ¬ Text.isWhitespace '!' = true := by decide
    rw [List.flatMap_cons, List.cons_append, List.takeWhile_cons_of_neg bang, List.append_nil]

theorem flatMap_injective {one two : List Text} (first : ∀ space ∈ one, Text.IsBlank space)
    (second : ∀ space ∈ two, Text.IsBlank space)
    (same : (one.flatMap fun space => '!' :: space) = two.flatMap fun space => '!' :: space) : one = two := by
  induction one generalizing two with
  | nil =>
    cases two with
    | nil => rfl
    | cons space two => simp at same
  | cons space one ih =>
    cases two with
    | nil => simp at same
    | cons other two =>
      have behind : (space ++ one.flatMap fun space => '!' :: space) = other ++ two.flatMap fun space => '!' :: space :=
        (List.cons.inj same).2
      have equal : space = other := by
        rw [← takeWhile_isWhitespace_append (first space (by simp)) one, behind,
          takeWhile_isWhitespace_append (second other (by simp)) two]
      subst equal
      have tails := ih (fun space mem => first space (by simp [mem])) (fun space mem => second space (by simp [mem]))
        (List.append_cancel_left behind)
      rw [tails]

/-- Two spellings that are written the same are the same. -/
theorem ext_print {one two : Spelling} (first : one.IsValid) (second : two.IsValid) (same : one.print = two.print) :
    one = two := by
  have counted := negations_print first
  rw [same, negations_print second] at counted
  have words : one.word = two.word := (Prod.mk.inj counted).2.symm
  rw [print, print, words] at same
  have spaces : one.negations = two.negations := flatMap_injective first.1 second.1 (List.append_cancel_right same)
  cases one
  cases two
  exact Spelling.mk.injEq .. ▸ ⟨spaces, words⟩

end Spelling

/-! ## The three outcomes -/

/-- A text has the value of a truth value that it spells, turned into the other one by each negation. It has none if it
    consists of negations. Otherwise it is no truth value, and the text behind the longest front of negations is to
    blame. A truth value is spelled in one way only. -/
theorem ofText_eq_ok_or_emptyValue_or_invalidBoolean (text : Text) :
    (∀ value, ofText text = .ok value ↔
        ∃ spelling : Spelling, spelling.IsValid ∧ Text.trim text = spelling.print ∧ spelling.value = value) ∧
      (∀ shown, ofText text = .error (.emptyValue shown) ↔
        shown = Text.trim text ∧ ∃ count, Negations count (Text.trim text)) ∧
      ((∀ spelling : Spelling, spelling.IsValid → Text.trim text ≠ spelling.print) →
        (∀ count, ¬ Negations count (Text.trim text)) →
        ∃ front rest, Text.trim text = front ++ rest ∧ LongestNegations front (Text.trim text) ∧
          ofText text = .error (.invalidBoolean rest)) ∧
      (∀ one two : Spelling, one.IsValid → two.IsValid → Text.trim text = one.print → Text.trim text = two.print →
        one = two) := by
  refine ⟨fun value => ofText_eq_ok_iff, fun shown => ⟨fun failed => ?_, ?_⟩, fun unspelled more => ?_, ?_⟩
  · obtain ⟨count, front, rest, negated, whole, _, ⟨rfl, same⟩ | ⟨_, _, other⟩⟩ := ofText_eq_error failed
    · rw [List.append_nil] at whole
      exact ⟨EvalError.emptyValue.inj same, count, whole ▸ negated⟩
    · simp at other
  · rintro ⟨rfl, count, negated⟩
    exact negated.ofText_eq
  · cases outcome : ofText text with
    | ok value =>
      obtain ⟨spelling, valid, shape, _⟩ := ofText_eq_ok_iff.mp outcome
      exact absurd shape (unspelled spelling valid)
    | error e =>
      obtain ⟨count, front, rest, negated, whole, settled, ⟨rfl, _⟩ | ⟨_, _, rfl⟩⟩ := ofText_eq_error outcome
      · rw [List.append_nil] at whole
        exact absurd (whole ▸ negated) (more count)
      · exact ⟨front, rest, whole, whole ▸ longestNegations negated settled, rfl⟩
  · intro one two first second shape also
    exact Spelling.ext_print first second (shape.symm.trans also)

/-- Two negations give the word its own value, alone they are no value, and behind them `tru` is no word. -/
theorem ofText_eq_ok_or_emptyValue_or_invalidBoolean_negated :
    ofText " ! !\tTrUe".toList = .ok true ∧
      ofText " ! !".toList = .error (.emptyValue "! !".toList) ∧
      ∃ front rest, "! !tru".toList = front ++ rest ∧ LongestNegations front "! !tru".toList ∧
        ofText "! !tru ".toList = .error (.invalidBoolean rest) := by
  have failed : ofText "! !tru ".toList = .error (.invalidBoolean "tru".toList) := by decide +kernel
  have spelling : (⟨[[' '], ['\t']], "TrUe".toList⟩ : Spelling).IsValid := by decide
  have last : Negations 1 (['!'] ++ [] ++ []) := .more (by decide) .none
  have alone : Negations 2 (['!'] ++ [' '] ++ ['!']) := .more (by decide) last
  obtain ⟨value, _, _, _⟩ := ofText_eq_ok_or_emptyValue_or_invalidBoolean " ! !\tTrUe".toList
  obtain ⟨_, empty, _, _⟩ := ofText_eq_ok_or_emptyValue_or_invalidBoolean " ! !".toList
  obtain ⟨_, _, other, _⟩ := ofText_eq_ok_or_emptyValue_or_invalidBoolean "! !tru ".toList
  refine ⟨(value true).mpr ⟨_, spelling, by decide, by decide⟩, (empty _).mpr ⟨by decide, 2, alone⟩, ?_⟩
  refine other (fun spelling valid shape => ?_) fun count negated => ?_
  · have read := ofText_eq_ok_iff.mpr ⟨spelling, valid, shape, rfl⟩
    exact absurd (failed.symm.trans read) (by simp)
  · exact absurd (failed.symm.trans negated.ofText_eq) (by simp)

end Verdict.Boolean
