import Verdict.Brackets

/-!
# Matching parentheses, pair by pair

A text whose parentheses match is empty, or it begins with a character that is no parenthesis, or with another such
text in parentheses (`balanced_iff_matched`).
-/
namespace Verdict

/-- The parentheses of the text match, from its front to its end. -/
inductive Matched : Text → Prop where
  | nil : Matched []
  | char {c : Char} {rest : Text} : c ≠ '(' → c ≠ ')' → Matched rest → Matched (c :: rest)
  | group {inner rest : Text} : Matched inner → Matched rest → Matched (parenthesized inner ++ rest)

theorem Matched.balanced {text : Text} (matched : Matched text) : Balanced text := by
  induction matched with
  | nil => exact Ungrouped.balanced (by decide)
  | @char c rest noOpen noClose _ ih =>
    have plain : Ungrouped [c] := by simp [Ungrouped, Ne.symm noOpen, Ne.symm noClose]
    exact plain.balanced.append ih
  | group _ _ inner rest => exact inner.parenthesized.append rest

/-- Where one parenthesis more is open than the rest of the text leaves open, something closes it. -/
theorem exists_partner {depth : Nat} {text : Text} (scan : depthAfter? (depth + 1) text = some 0) :
    ∃ inner rest, text = inner ++ ')' :: rest ∧ Matched inner ∧ depthAfter? depth rest = some 0 := by
  induction size : text.length using Nat.strongRecOn generalizing depth text with
  | _ n ih =>
    cases text with
    | nil => simp [depthAfter?] at scan
    | cons c tail =>
      subst size
      rw [depthAfter?] at scan
      by_cases opens : c = '('
      · subst opens
        rw [if_pos rfl] at scan
        -- The pair that opens here is closed first, and then the one from before.
        obtain ⟨first, after, rfl, matched, behind⟩ := ih tail.length (by simp) scan rfl
        obtain ⟨second, rest, rfl, more, last⟩ := ih after.length (by simp; omega) behind rfl
        exact ⟨parenthesized first ++ second, rest, by simp [parenthesized], .group matched more, last⟩
      · by_cases closes : c = ')'
        · subst closes
          rw [if_neg opens, if_pos rfl, if_neg (Nat.succ_ne_zero depth)] at scan
          exact ⟨[], tail, rfl, .nil, scan⟩
        · rw [if_neg opens, if_neg closes] at scan
          obtain ⟨inner, rest, rfl, matched, last⟩ := ih tail.length (by simp) scan rfl
          exact ⟨c :: inner, rest, rfl, .char opens closes matched, last⟩

theorem matched_of_depthAfter? {text : Text} (scan : depthAfter? 0 text = some 0) : Matched text := by
  induction size : text.length using Nat.strongRecOn generalizing text with
  | _ n ih =>
    cases text with
    | nil => exact .nil
    | cons c tail =>
      subst size
      rw [depthAfter?] at scan
      by_cases opens : c = '('
      · subst opens
        rw [if_pos rfl] at scan
        obtain ⟨inner, rest, rfl, matched, behind⟩ := exists_partner scan
        have shape : '(' :: (inner ++ ')' :: rest) = parenthesized inner ++ rest := by simp [parenthesized]
        rw [shape]
        exact .group matched (ih rest.length (by simp; omega) behind rfl)
      · by_cases closes : c = ')'
        · rw [if_neg opens, if_pos closes, if_pos rfl] at scan
          simp at scan
        · rw [if_neg opens, if_neg closes] at scan
          exact .char opens closes (ih tail.length (by simp) scan rfl)

theorem balanced_iff_matched {text : Text} : Balanced text ↔ Matched text :=
  ⟨fun balanced => matched_of_depthAfter? (balanced_iff.mp balanced), Matched.balanced⟩

end Verdict
