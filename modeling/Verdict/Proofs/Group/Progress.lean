import Verdict.Proofs.Depth.Limit
import Verdict.Proofs.Group.Account

/-!
# Progress

Each group that gives way to its value takes parentheses with it, and brings nothing in that the evaluation would look
for: no parenthesis and no operator. A group that has a value is at least three characters long, so no text gets longer.
One step keeps to this (`progress_of_found`), and so does the whole reduction, which therefore has no more steps than
the expression has opening parentheses (`Reduction.length_le`).
-/
namespace Verdict

/-! ## Sizes -/

/-- How many bytes a text takes up. -/
def Text.utf8Size (text : Text) : Nat :=
  (String.ofList text).utf8ByteSize

theorem Text.utf8Size_append (a b : Text) : utf8Size (a ++ b) = utf8Size a + utf8Size b := by
  rw [utf8Size, String.ofList_append, String.utf8ByteSize_append]
  rfl

theorem Text.length_le_utf8Size (text : Text) : text.length ≤ utf8Size text := by
  induction text with
  | nil => exact Nat.zero_le _
  | cons c text ih =>
    have one := c.utf8Size_pos
    rw [utf8Size, String.ofList_cons, String.utf8ByteSize_append, String.utf8ByteSize_singleton, List.length_cons]
    rw [utf8Size] at ih
    omega

variable {value : Text → Traced Bool} {text group : Text} {groups : List (Text × Bool)} {result : Bool}

/-- The word for a value takes up no more bytes than a group that has a value, with its parentheses. -/
theorem utf8Size_substitute_le (long : 3 ≤ group.length) (result : Bool) (text : Text) :
    Text.utf8Size (substitute group result text) ≤ Text.utf8Size text := by
  refine Text.size_replaceAll_le Text.utf8Size_append (parenthesized_ne_nil group) ?_ text
  have five : Text.utf8Size (Boolean.word result) ≤ 5 := by cases result <;> decide
  have more := Text.length_le_utf8Size (parenthesized group)
  simp only [parenthesized, List.cons_append, List.length_cons, List.length_append, List.length_nil] at more
  exact five.trans (le_trans (by omega) more)

/-! ## One step -/

/-- What the evaluation looks for in a text: the symbol of an operator, or a parenthesis. -/
def IsDelimiter (mark : Text) : Prop :=
  (∃ op : Operator, mark = op.symbol) ∨ mark = ['('] ∨ mark = [')']

theorem IsDelimiter.ne_nil {mark : Text} (delimiter : IsDelimiter mark) : mark ≠ [] := by
  rcases delimiter with ⟨op, rfl⟩ | rfl | rfl
  · exact op.symbol_ne_nil
  · simp
  · simp

/-- The words for values are made of letters. -/
theorem IsDelimiter.not_mem_word {mark : Text} (delimiter : IsDelimiter mark) (result : Bool) :
    ∀ c ∈ mark, c ∉ Boolean.word result := by
  have symbols : ∀ op : Operator, ∀ c ∈ op.symbol, c ∉ Boolean.word result := by
    intro op
    cases op <;> cases result <;> simp [Operator.symbol, Boolean.word]
  rcases delimiter with ⟨op, rfl⟩ | rfl | rfl
  · exact symbols op
  · simpa using (Boolean.ungrouped_word result).1
  · simpa using (Boolean.ungrouped_word result).2

/-- Wherever `mark` stands once a group has given way to its value, it stood in the text outside of the copies of the
    group: each of these is in front of it or behind it. -/
def StoodOutside (group : Text) (result : Bool) (text mark : Text) : Prop :=
  ∀ before after, substitute group result text = before ++ (mark ++ after) →
    ∃ first last, text = first ++ (mark ++ last) ∧
      before = substitute group result first ∧ after = substitute group result last ∧
        Text.copies (parenthesized group) text =
          Text.copies (parenthesized group) first + Text.copies (parenthesized group) last

/-- What happens to a text when all copies of a group give way to its value. -/
structure Progress (group : Text) (result : Bool) (text : Text) : Prop where
  copied : 0 < Text.copies (parenthesized group) text
  opened : (substitute group result text).count '(' + Text.copies (parenthesized group) text = text.count '('
  closed : (substitute group result text).count ')' + Text.copies (parenthesized group) text = text.count ')'
  delimiters : ∀ mark, IsDelimiter mark → StoodOutside group result text mark
  length_le : (substitute group result text).length ≤ text.length
  utf8Size_le : Text.utf8Size (substitute group result text) ≤ Text.utf8Size text

theorem progress_of_found (found : innermostGroup? text = .ok (some group)) (long : 3 ≤ group.length)
    (result : Bool) : Progress group result text := by
  obtain ⟨opened, closed⟩ := count_substitute (plain_of_found found).1 result text
  have fewer := count_substitute_lt found result
  refine ⟨by omega, opened, closed, ?_, length_substitute_le long result text, utf8Size_substitute_le long result text⟩
  intro mark delimiter before after here
  exact Text.exists_of_replaceAll_eq (parenthesized_ne_nil group) (Boolean.word_ne_nil result) delimiter.ne_nil
    (delimiter.not_mem_word result) here

/-! ## All steps -/

/-- There are as many opening parentheses as steps, and more if any are left. -/
theorem Reduction.length_le (reduction : Reduction value text groups) :
    groups.length + (replay text groups).count '(' ≤ text.count '(' := by
  induction reduction with
  | nil => simp [replay]
  | @cons text group result groups found _ _ ih =>
    have fewer := count_substitute_lt found result
    rw [List.length_cons, replay_cons]
    omega

/-- No text gets larger, if no group that has a value is too short. -/
theorem Reduction.size_le (long : ∀ group result, (value group).outcome = .ok result → 3 ≤ group.length)
    (reduction : Reduction value text groups) :
    (replay text groups).length ≤ text.length ∧ Text.utf8Size (replay text groups) ≤ Text.utf8Size text := by
  induction reduction with
  | nil => exact ⟨Nat.le_refl _, Nat.le_refl _⟩
  | @cons text group result groups found known _ ih =>
    have step := progress_of_found found (long group result known) result
    exact ⟨ih.1.trans step.length_le, ih.2.trans step.utf8Size_le⟩

namespace Evaluator

variable (evaluator : Evaluator) {expression : Text}

/-- The groups of a trace are reduced one after the other, until no group that is found has a value. -/
theorem exists_reduction (positive : evaluator.config.maxDepth ≠ 0) (expression : Text) :
    let groups := reducedGroups (evaluator.trace expression).events
    ∃ value : Text → Traced Bool, (∀ text, (value text).outcome = evaluator.ungroupedValue text) ∧
      Reduction value expression groups ∧
      ∀ group, innermostGroup? (replay expression groups) = .ok (some group) →
        ∃ error, evaluator.ungroupedValue group = .error error := by
  intro groups
  by_cases blank : Text.IsBlank expression
  · have unreduced : groups = [] := by
      show reducedGroups (evaluator.trace expression).events = []
      rw [trace_of_isBlank evaluator blank]
      rfl
    have nothing := innermostGroup?_of_ungrouped blank.unmarked.ungrouped
    refine ⟨fun text => .ofExcept (evaluator.ungroupedValue text), fun text => rfl, unreduced ▸ .nil expression, ?_⟩
    intro group found
    rw [unreduced] at found
    exact absurd (nothing.symm.trans found) (by simp)
  · obtain ⟨value, known, reduction, ends⟩ := exists_run evaluator positive blank
    refine ⟨value, known, reduction, fun group found => ?_⟩
    obtain ⟨error, failed, _⟩ := ends.of_found found
    exact ⟨error, (known group).symm.trans failed⟩

/-- Each step of a trace finds the left-most group of what is left of the expression, with its value, and makes
    progress. In the end no group that is found has a value. There are no more steps than opening parentheses, one
    that fails included, and nothing on the way is larger than the expression. -/
theorem progress_and_length_reducedGroups_le (positive : evaluator.config.maxDepth ≠ 0) (expression : Text) :
    let groups := reducedGroups (evaluator.trace expression).events
    (∀ before group result after, groups = before ++ (group, result) :: after →
      innermostGroup? (replay expression before) = .ok (some group) ∧ evaluator.evaluate group = .ok result ∧
        Progress group result (replay expression before)) ∧
      (∀ group, innermostGroup? (replay expression groups) = .ok (some group) →
        groups.length < expression.count '(' ∧ ∀ result, evaluator.evaluate group ≠ .ok result) ∧
      groups.length ≤ expression.count '(' ∧
      ∀ before, before <+: groups →
        (replay expression before).length ≤ expression.length ∧
          Text.utf8Size (replay expression before) ≤ Text.utf8Size expression := by
  intro groups
  obtain ⟨value, known, reduction, ends⟩ := exists_reduction evaluator positive expression
  have long : ∀ group result, (value group).outcome = .ok result → 3 ≤ group.length :=
    fun group result here => three_le_length_of_ungrouped ((known group).symm.trans here)
  have steps : groups.length + (replay expression groups).count '(' ≤ expression.count '(' := reduction.length_le
  refine ⟨?_, ?_, by omega, ?_⟩
  · intro before group result after whole
    have reduction : Reduction value expression (before ++ (group, result) :: after) := whole ▸ reduction
    obtain ⟨found, here⟩ := reduction.step
    have plain := (plain_of_found found).1
    have reduced := (known group).symm.trans here
    exact ⟨found, (evaluate_eq_ok_iff_of_ungrouped evaluator positive plain).mpr reduced,
      progress_of_found found (long group result here) result⟩
  · intro group found
    have opens : 0 < (replay expression groups).count '(' :=
      Nat.lt_of_le_of_lt (Nat.zero_le _) (count_substitute_lt found true)
    refine ⟨by omega, fun result reduced => ?_⟩
    obtain ⟨error, failed⟩ := ends group found
    rw [evaluate_eq_ok_iff_of_ungrouped evaluator positive (plain_of_found found).1, failed] at reduced
    simp at reduced
  · rintro before ⟨after, whole⟩
    have reduction : Reduction value expression (before ++ after) := whole.symm ▸ reduction
    exact reduction.front.size_le long

/-- Both copies of the first group give way in one step, and the third step fails. -/
theorem progress_and_length_reducedGroups_le_copied :
    let expression := "((1<2) == (1<2)) || (3<x)".toList
    let groups := reducedGroups ((default : Evaluator).trace expression).events
    groups = [("1<2".toList, true), ("true == true".toList, true)] ∧ groups.length < expression.count '(' ∧
      Progress "1<2".toList true expression ∧
      (replay expression groups).length ≤ expression.length := by
  intro expression groups
  have whole : groups = [("1<2".toList, true), ("true == true".toList, true)] := by decide +kernel
  obtain ⟨steps, last, _, sizes⟩ := progress_and_length_reducedGroups_le default (by decide) expression
  exact ⟨whole, (last "3<x".toList (by decide +kernel)).1, (steps [] _ _ _ whole).2.2,
    (sizes groups (List.prefix_refl _)).1⟩

end Evaluator
end Verdict
