import Verdict.Brackets
import Verdict.Proofs.Text.Copies

/-!
# The first group that is closed

The first closing parenthesis of a text ends the left-most group without groups in it, if something is open there. This
group is what the search comes to (`innermostGroup?_closed`), and where there is no such group the search says what is
wrong: `search` has all cases.
-/
namespace Verdict

/-! ## Where the group stands -/

theorem Balanced.closes {text : Text} (balanced : Balanced text) (opens : '(' ∈ text) : ')' ∈ text := by
  rw [← List.count_pos_iff, balanced.closed_eq]
  exact List.count_pos_iff.mpr opens

/-- Before the first closing parenthesis, the last opening one has no parenthesis behind it. -/
theorem exists_last_open {before : Text} (open_ : ')' ∉ before) (opens : '(' ∈ before) :
    ∃ front inner, before = front ++ '(' :: inner ∧ ')' ∉ front ∧ Ungrouped inner := by
  obtain ⟨inner, front, shape, last⟩ := List.eq_append_cons_of_mem (List.mem_reverse.mpr opens)
  obtain rfl : before = front.reverse ++ '(' :: inner.reverse := by
    rw [← List.reverse_reverse before, shape]
    simp
  simp only [List.mem_append, List.mem_cons, List.mem_reverse, not_or] at open_
  exact ⟨front.reverse, inner.reverse, rfl, by simpa using open_.1, by simpa [Ungrouped] using ⟨last, open_.2.2⟩⟩

/-- The first closing parenthesis and the last opening one before it hold a text without parentheses. -/
theorem exists_first_group {text : Text} (opened : ∀ front, front <+: text → front.count ')' ≤ front.count '(')
    (closes : ')' ∈ text) :
    ∃ front inner back, text = front ++ (parenthesized inner ++ back) ∧ ')' ∉ front ∧ Ungrouped inner := by
  obtain ⟨before, back, rfl, first⟩ := List.eq_append_cons_of_mem closes
  -- The first closing parenthesis has a partner before it.
  have partner : '(' ∈ before := by
    have fewer := opened (before ++ [')']) ⟨back, by simp⟩
    have unopened : List.count '(' [')'] = 0 := by decide
    simp only [List.count_append, List.count_singleton_self, unopened] at fewer
    rw [← List.count_pos_iff]
    omega
  obtain ⟨front, inner, rfl, open_, plain⟩ := exists_last_open first partner
  exact ⟨front, inner, back, by simp [parenthesized], open_, plain⟩

/-- Where nothing is closed, nothing is opened. -/
theorem ungrouped_of_not_mem {text : Text} (even : text.count ')' = text.count '(') (closes : ')' ∉ text) :
    Ungrouped text := by
  refine ⟨?_, closes⟩
  rw [← List.count_eq_zero, ← even]
  exact List.count_eq_zero.mpr closes

theorem innermostGroup?_of_ungrouped {text : Text} (plain : Ungrouped text) : innermostGroup? text = .ok none := by
  have absent : Text.cut? ['('] text = none := by
    rw [Text.cut?_eq_none_iff]
    intro here
    exact plain.1 (here.subset (by simp))
  simp [innermostGroup?, List.count_eq_zero.mpr plain.1, List.count_eq_zero.mpr plain.2, absent]

/-! ## What the search comes to at the group -/

/-- What is wrong with a text in which an empty pair is closed first. If the text ends there or goes on with another
    group, the pair has no value; otherwise what follows it, up to the next group, lacks a parenthesis. -/
def emptyPairError (text back : Text) : EvalError :=
  let following := back.takeWhile (· ≠ '(')
  if following = [] then .emptyGroup text else .unbalancedGroup (')' :: following) '('

/-- What the search comes to at the group that is closed first. -/
def closedGroup (text inner back : Text) : Except EvalError (Option Text) :=
  if inner = [] then .error (emptyPairError text back) else .ok (some inner)

/-- Pieces in which nothing is closed are passed over. -/
theorem firstClosed?_append {pieces : List Text} (whole : Text) (open_ : ∀ piece ∈ pieces, ')' ∉ piece)
    (more : List Text) : firstClosed? whole (pieces ++ more) = firstClosed? whole more := by
  induction pieces with
  | nil => rfl
  | cons piece pieces ih =>
    have absent : Text.cut? [')'] piece = none := by
      rw [Text.cut?_eq_none_iff]
      intro here
      exact open_ piece (by simp) (here.subset (by simp))
    rw [List.cons_append, firstClosed?, absent]
    exact ih fun piece mem => open_ piece (by simp [mem])

/-- The first piece ends before the first copy of the character. -/
theorem exists_pieces_eq_cons (c : Char) (text : Text) :
    ∃ more, Text.pieces [c] text = text.takeWhile (· ≠ c) :: more := by
  induction text with
  | nil => exact ⟨[], rfl⟩
  | cons d rest ih =>
    by_cases same : d = c
    · subst same
      have cut := Text.pieces_append (List.cons_ne_nil d []) rest
      rw [List.singleton_append] at cut
      exact ⟨_, by rw [cut, List.takeWhile_cons_of_neg (by simp)]⟩
    · have absent : ¬ [c] <+: d :: rest := fun here => same (by simpa using here : c = d).symm
      obtain ⟨more, shape⟩ := ih
      refine ⟨more, ?_⟩
      rw [Text.pieces_cons absent, shape, List.takeWhile_cons_of_pos (by simpa using same)]
      rfl

/-- The group at the front of the pieces, behind its opening parenthesis. -/
theorem firstClosed?_closed (whole : Text) {inner : Text} (plain : Ungrouped inner) (back : Text) :
    firstClosed? whole (Text.pieces ['('] (inner ++ ')' :: back)) = closedGroup whole inner back := by
  have opens : '(' ∉ inner ++ [')'] := by simp [plain.1]
  have absent : ¬ Text.StartsIn ['('] (inner ++ [')']) back := Text.not_startsIn_of_not_mem opens
  have cut := Text.pieces_append_eq absent
  obtain ⟨more, shape⟩ := exists_pieces_eq_cons '(' back
  have split : Text.pieces ['('] (inner ++ ')' :: back) = (inner ++ ')' :: back.takeWhile (· ≠ '(')) :: more := by
    simpa [shape] using cut
  rw [split, firstClosed?, Text.cut?_cons_of_not_mem plain.2]
  cases inner with
  | nil =>
    rw [closedGroup, if_pos rfl, emptyPairError]
    cases back.takeWhile (· ≠ '(') with
    | nil => rfl
    | cons c cs => rfl
  | cons c cs => simp [closedGroup]

theorem innermostGroup?_closed {front inner back : Text} (plain : Ungrouped inner) (open_ : ')' ∉ front)
    (even : (front ++ (parenthesized inner ++ back)).count ')' =
      (front ++ (parenthesized inner ++ back)).count '(') :
    innermostGroup? (front ++ (parenthesized inner ++ back)) =
      closedGroup (front ++ (parenthesized inner ++ back)) inner back := by
  rw [innermostGroup?, if_neg (by omega), if_neg (by omega)]
  have shape : parenthesized inner ++ back = '(' :: (inner ++ ')' :: back) := by simp [parenthesized]
  rw [shape]
  by_cases first : '(' ∈ front
  · obtain ⟨before, between, rfl, outer⟩ := List.eq_append_cons_of_mem first
    have cut : Text.cut? ['('] (before ++ '(' :: between ++ '(' :: (inner ++ ')' :: back)) =
        some (before, between ++ '(' :: (inner ++ ')' :: back)) := by
      rw [List.append_assoc]
      exact Text.cut?_cons_of_not_mem outer
    have closed : ')' ∉ before := fun mem => open_ (by simp [mem])
    simp only [cut, if_neg closed, Text.pieces_append_cons]
    rw [firstClosed?_append]
    · exact firstClosed?_closed _ plain back
    · intro piece mem closes
      have inside := (Text.cons_occurs_of_mem_pieces mem).subset (List.mem_cons_of_mem _ closes)
      exact open_ (by simp_all)
  · simp only [Text.cut?_cons_of_not_mem first, if_neg open_]
    exact firstClosed?_closed _ plain back

theorem Balanced.ungrouped {text : Text} (balanced : Balanced text) (unopened : '(' ∉ text) : Ungrouped text := by
  refine ⟨unopened, ?_⟩
  rw [← List.count_eq_zero, balanced.closed_eq]
  exact List.count_eq_zero.mpr unopened

/-- A text whose groups hold something has no groups, or the search finds the one that is closed first. -/
theorem WellGrouped.exists_first_group {text : Text} (grouped : WellGrouped text) (opens : '(' ∈ text) :
    ∃ front inner back, text = front ++ (parenthesized inner ++ back) ∧ ')' ∉ front ∧ Ungrouped inner ∧
      innermostGroup? text = .ok (some inner) := by
  obtain ⟨front, inner, back, rfl, open_, plain⟩ :=
    Verdict.exists_first_group grouped.1.closed_le (grouped.1.closes opens)
  have nonempty : inner ≠ [] := by
    rintro rfl
    exact grouped.2 ⟨front, back, by simp [Verdict.parenthesized, emptyPair]⟩
  refine ⟨front, inner, back, rfl, open_, plain, ?_⟩
  rw [innermostGroup?_closed plain open_ grouped.1.closed_eq, closedGroup, if_neg nonempty]

/-! ## All that the search may come to -/

/-- What the search may come to in a text, and what is known of the text then. -/
inductive Search (text : Text) : Except EvalError (Option Text) → Prop where
  | opened : text.count ')' < text.count '(' → Search text (.error (.unbalancedGroup text ')'))
  | closed : text.count '(' < text.count ')' → Search text (.error (.unbalancedGroup text '('))
  | nothing : Ungrouped text → Search text (.ok none)
  /-- Something is closed before anything is opened. -/
  | early {before after : Text} : text = before ++ ')' :: after → Ungrouped before →
    Search text (.error (.unbalancedGroup (text.takeWhile (· ≠ '(')) '('))
  | pair {front back : Text} : text = front ++ (emptyPair ++ back) → ')' ∉ front →
    Search text (.error (emptyPairError text back))
  | group {front inner back : Text} : text = front ++ (parenthesized inner ++ back) → ')' ∉ front →
    Ungrouped inner → inner ≠ [] → Search text (.ok (some inner))

/-- A parenthesis that is closed before anything is opened stands before the first opening one. -/
theorem innermostGroup?_early {before after : Text} (plain : Ungrouped before)
    (even : (before ++ ')' :: after).count ')' = (before ++ ')' :: after).count '(') :
    innermostGroup? (before ++ ')' :: after) =
      .error (.unbalancedGroup ((before ++ ')' :: after).takeWhile (· ≠ '(')) '(') := by
  have opens : '(' ∈ after := by
    have closed : 0 < (before ++ ')' :: after).count ')' := List.count_pos_iff.mpr (by simp)
    rw [even, List.count_pos_iff] at closed
    simpa [plain.1] using closed
  obtain ⟨between, rest, rfl, first⟩ := List.eq_append_cons_of_mem opens
  have unopened : '(' ∉ before ++ ')' :: between := by simp [plain.1, first]
  have shape : before ++ ')' :: (between ++ '(' :: rest) = (before ++ ')' :: between) ++ '(' :: rest := by simp
  rw [innermostGroup?, if_neg (by omega), if_neg (by omega), shape, Text.takeWhile_append_cons unopened]
  simp only [Text.cut?_cons_of_not_mem unopened]
  rw [if_pos (by simp)]

theorem search (text : Text) : Search text (innermostGroup? text) := by
  by_cases opened : text.count ')' < text.count '('
  · rw [innermostGroup?, if_pos opened]
    exact .opened opened
  by_cases closed : text.count '(' < text.count ')'
  · rw [innermostGroup?, if_neg opened, if_pos closed]
    exact .closed closed
  have even : text.count ')' = text.count '(' := by omega
  by_cases closes : ')' ∈ text
  · obtain ⟨before, back, rfl, first⟩ := List.eq_append_cons_of_mem closes
    by_cases opens : '(' ∈ before
    · obtain ⟨front, inner, rfl, open_, plain⟩ := exists_last_open first opens
      have shape : front ++ '(' :: inner ++ ')' :: back = front ++ (parenthesized inner ++ back) := by
        simp [parenthesized]
      rw [shape] at even ⊢
      rw [innermostGroup?_closed plain open_ even, closedGroup]
      by_cases empty : inner = []
      · rw [if_pos empty]
        exact .pair (by simp [empty, parenthesized, emptyPair]) open_
      · rw [if_neg empty]
        exact .group rfl open_ plain empty
    · have plain : Ungrouped before := ⟨opens, first⟩
      rw [innermostGroup?_early plain even]
      exact .early rfl plain
  · have plain := ungrouped_of_not_mem even closes
    rw [innermostGroup?_of_ungrouped plain]
    exact .nothing plain

end Verdict
