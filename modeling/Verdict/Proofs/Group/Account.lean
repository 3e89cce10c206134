import Verdict.Proofs.Group.Errors
import Verdict.Proofs.Parenthesized

/-!
# The account that a trace gives

The groups of a trace are an account of the whole reduction. Each is found in what is left of the expression by then,
and has the reported value as an expression of its own; with the value in its place, what is left is evaluated as
before (`evaluate_replay`). Nothing else happens to the parentheses: those of the expression are those of the copies
that gave way, and those that are left (`count_replay`).
-/
namespace Verdict

/-- How many copies of groups give way to values altogether. -/
def replaced : Text → List (Text × Bool) → Nat
  | _, [] => 0
  | text, (group, result) :: groups =>
    Text.copies (parenthesized group) text + replaced (substitute group result text) groups

variable {value : Text → Traced Bool} {text group : Text} {result : Bool} {groups : List (Text × Bool)}

/-- Each copy that gives way takes one opening parenthesis with it. -/
theorem count_replay (plain : ∀ item ∈ groups, Ungrouped item.1 ∧ item.1 ≠ []) (text : Text) :
    (replay text groups).count '(' + replaced text groups = text.count '(' := by
  induction groups generalizing text with
  | nil => rfl
  | cons item groups ih =>
    obtain ⟨group, result⟩ := item
    obtain ⟨ungrouped, _⟩ : Ungrouped group ∧ group ≠ [] := plain (group, result) (by simp)
    obtain ⟨here, _⟩ := count_substitute ungrouped result text
    have later := ih (fun other mem => plain other (by simp [mem])) (substitute group result text)
    show (replay (substitute group result text) groups).count '(' +
      (Text.copies (parenthesized group) text + replaced (substitute group result text) groups) = _
    omega

theorem not_isBlank_of_found (found : innermostGroup? text = .ok (some group)) : ¬ Text.IsBlank text := by
  obtain ⟨front, back, rfl, _⟩ := closed_first_of_found found
  exact Evaluator.not_isBlank_parenthesized front group back

/-- A word is left of a group that is found. -/
theorem not_isBlank_substitute (found : innermostGroup? text = .ok (some group)) (result : Bool) :
    ¬ Text.IsBlank (substitute group result text) := by
  obtain ⟨front, back, rfl, open_⟩ := closed_first_of_found found
  intro blank
  rw [substitute_append open_ (plain_of_found found).1] at blank
  have word : Text.IsBlank (Boolean.word result) := by
    refine blank.of_subset fun c mem => ?_
    simp [mem]
  cases result with
  | true => exact absurd word (by decide)
  | false => exact absurd word (by decide)

namespace Evaluator

variable (evaluator : Evaluator) {expression : Text}

theorem not_isBlank_of_ungroupedValue (known : evaluator.ungroupedValue text = .ok result) : ¬ Text.IsBlank text := by
  intro blank
  have unsplit := Split.first?_of_not_occursIn blank.unmarked.not_occursIn
  rw [ungroupedValue, outcome_ungrouped_of_none _ _ _ unsplit, Boolean.ofText, Text.trim_eq_nil_iff.mpr blank] at known
  exact absurd known (by simp [Boolean.negations])

section

variable (positive : evaluator.config.maxDepth ≠ 0)
include positive

/-- What a text without groups has as its value. -/
theorem evaluate_eq_ok_iff_of_ungrouped (plain : Ungrouped text) :
    evaluator.evaluate text = .ok result ↔ evaluator.ungroupedValue text = .ok result := by
  by_cases blank : Text.IsBlank text
  · refine iff_of_false ?_ fun known => not_isBlank_of_ungroupedValue evaluator known blank
    simp [evaluate, trace_of_isBlank evaluator blank]
  · rw [evaluate_of_ungrouped evaluator positive plain blank]

/-- One step: the group that is found is evaluated, and then what is left of the expression. -/
theorem evaluate_of_found (found : innermostGroup? text = .ok (some group)) :
    evaluator.evaluate text =
      (evaluator.ungroupedValue group).bind fun result => evaluator.evaluate (substitute group result text) := by
  obtain ⟨levels, limit⟩ := exists_levels positive
  have rest : ∀ result, evaluator.evaluate (substitute group result text) =
      (reduce evaluator.config.comparison evaluator.config.maxDepth.toNat evaluator.config.maxDepth.toNat 1
        (substitute group result text)).outcome :=
    fun result => evaluate_of_not_isBlank evaluator (not_isBlank_substitute found result)
  simp only [rest]
  rw [evaluate_of_not_isBlank evaluator (not_isBlank_of_found found), ungroupedValue, limit, reduce,
    outcome_reduceGroups_of_group _ _ found]
  rfl

/-- What the groups leave of the expression is evaluated as the expression is. -/
theorem evaluate_replay (known : ∀ text, (value text).outcome = evaluator.ungroupedValue text)
    (reduction : Reduction value text groups) : evaluator.evaluate (replay text groups) = evaluator.evaluate text := by
  induction reduction with
  | nil => rfl
  | @cons text group result groups found reduced _ ih =>
    have here : evaluator.ungroupedValue group = .ok result := (known group).symm.trans reduced
    have step := evaluate_of_found evaluator positive found
    rw [here] at step
    exact ih.trans step.symm

/-- The groups of a trace lead from the expression to its value, step by step. -/
theorem evaluate_replay_eq_and_replaced_eq_count (expression : Text) :
    let groups := reducedGroups (evaluator.trace expression).events
    (∀ before group result after, groups = before ++ (group, result) :: after →
      Ungrouped group ∧
      (∃ front back, replay expression before = front ++ (parenthesized group ++ back) ∧ ')' ∉ front) ∧
      evaluator.evaluate group = .ok result ∧
      evaluator.evaluate (replay expression (before ++ [(group, result)])) = evaluator.evaluate expression) ∧
    ∀ value, evaluator.evaluate expression = .ok value →
      Ungrouped (replay expression groups) ∧ replaced expression groups = expression.count '(' := by
  intro groups
  by_cases blank : Text.IsBlank expression
  · have nothing := trace_of_isBlank evaluator blank
    have unreduced : groups = [] := by
      show reducedGroups (evaluator.trace expression).events = []
      rw [nothing]
      rfl
    constructor
    · intro before group result after whole
      simp [unreduced] at whole
    · intro value known
      simp [evaluate, nothing] at known
  · obtain ⟨value, outcome, reduction, ends⟩ := exists_run evaluator positive blank
    constructor
    · intro before group result after whole
      have reduction : Reduction value expression (before ++ (group, result) :: after) := whole ▸ reduction
      obtain ⟨found, reduced⟩ := reduction.step
      obtain ⟨plain, _⟩ := plain_of_found found
      have known : evaluator.ungroupedValue group = .ok result := (outcome group).symm.trans reduced
      refine ⟨plain, closed_first_of_found found,
        (evaluate_eq_ok_iff_of_ungrouped evaluator positive plain).mpr known, ?_⟩
      · apply evaluate_replay evaluator positive outcome
        have shape : before ++ (group, result) :: after = (before ++ [(group, result)]) ++ after := by simp
        rw [shape] at reduction
        exact reduction.front
    · intro value known
      rw [known] at ends
      have plain := ends.ungrouped
      have count := count_replay reduction.plain expression
      rw [List.count_eq_zero.mpr plain.1, Nat.zero_add] at count
      exact ⟨plain, count⟩

end

/-- Two copies give way at once, and then the group that holds one of them. -/
theorem evaluate_replay_eq_and_replaced_eq_count_copied :
    let expression := "(1<2) && ((1<2) || 2<1)".toList
    let groups := reducedGroups ((default : Evaluator).trace expression).events
    groups = [("1<2".toList, true), ("true || 2<1".toList, true)] ∧ replaced expression groups = 3 := by
  intro expression groups
  have known : (default : Evaluator).evaluate expression = .ok true := by decide +kernel
  exact ⟨by decide +kernel, ((evaluate_replay_eq_and_replaced_eq_count default (by decide) expression).2 true known).2⟩

end Evaluator
end Verdict
