import Verdict.Evaluation.OnePass
import Verdict.Proofs.Group.Reduction
import Verdict.Proofs.Literals
import Verdict.Proofs.Upheld

/-!
# Errors about parentheses

The parentheses of an expression decide which errors about parentheses it may have. Such an error comes from the search
for the next group in what has become of the expression (`exists_run`, `search_of_isGrouping`), and what is wrong there
is wrong in the expression itself. The other way round, what is wrong in the expression is found, unless the evaluation
of a group fails before.
-/
namespace Verdict

/-- An error of the whole is no group. -/
theorem reducedGroups_onError {α : Type} (traced : Traced α) (expression : Text) :
    reducedGroups (traced.onError (.failed expression)).events = reducedGroups traced.events := by
  unfold Traced.onError
  split
  · rfl
  · rw [reducedGroups, List.filterMap_append]
    exact List.append_nil _

namespace Evaluator

variable (evaluator : Evaluator) {expression : Text}

/-! ## The run of an evaluation -/

theorem not_isGrouping_of_ungroupedValue {text : Text} {error : EvalError} (plain : Ungrouped text)
    (failed : evaluator.ungroupedValue text = .error error) : ¬ error.IsGrouping := by
  have upholds := upholds_ungrouped evaluator.config.comparison evaluator.config.maxDepth.toNat
  exact (upholds.ungrouped (evaluator.config.maxDepth.toNat - 1) 1 (fun _ here => upholds.reduce _ 2 here) plain).errors
    error failed

/-- The groups that are reported lead from the expression to where its evaluation ends. -/
theorem exists_run (positive : evaluator.config.maxDepth ≠ 0) (notBlank : ¬ Text.IsBlank expression) :
    ∃ value : Text → Traced Bool, (∀ text, (value text).outcome = evaluator.ungroupedValue text) ∧
      Reduction value expression (reducedGroups (evaluator.trace expression).events) ∧
      Ends value (replay expression (reducedGroups (evaluator.trace expression).events))
        (evaluator.evaluate expression) := by
  obtain ⟨levels, limit⟩ := exists_levels positive
  let mode := evaluator.config.comparison
  have upholds := upholds_ungrouped mode (levels + 1)
  let value := ungrouped mode 1 (reduce mode (levels + 1) levels 2)
  have quiet : ∀ text, Ungrouped text → reducedGroups (value text).events = [] := by
    intro text here
    have within := upholds.ungrouped levels 1 (fun _ deeper => upholds.reduce levels 2 deeper) here
    exact List.filterMap_eq_nil_iff.mpr within.events
  have run := reduceGroups_run quiet 1 expression
  refine ⟨value, fun text => ?_, ?_⟩
  · simp [ungroupedValue, value, mode, limit]
  · rw [evaluate_of_not_isBlank evaluator notBlank, trace_of_not_isBlank evaluator notBlank]
    simp only [limit, reducedGroups_onError]
    exact run

/-- An error about parentheses comes from the search for the next group. -/
theorem search_of_isGrouping (positive : evaluator.config.maxDepth ≠ 0) {error : EvalError}
    (failed : evaluator.evaluate expression = .error error) (grouping : error.IsGrouping) :
    ∃ value, ∃ groups, Reduction value expression groups ∧
      innermostGroup? (replay expression groups) = .error error := by
  by_cases blank : Text.IsBlank expression
  · obtain rfl : EvalError.emptyInput = error := by simpa [evaluate, trace, blank] using failed
    exact absurd grouping not_false
  · obtain ⟨value, known, reduction, ends⟩ := exists_run evaluator positive blank
    rw [failed] at ends
    refine ⟨value, _, reduction, ends.refused_of grouping fun text e plain refused => ?_⟩
    exact not_isGrouping_of_ungroupedValue evaluator plain ((known text).symm.trans refused)

/-! ## From the error to the expression -/

theorem wellGrouped_of_evaluate_eq_ok (positive : evaluator.config.maxDepth ≠ 0) {value : Bool}
    (known : evaluator.evaluate expression = .ok value) : WellGrouped expression := by
  have notBlank : ¬ Text.IsBlank expression := by
    intro blank
    simp [evaluate, trace, blank] at known
  obtain ⟨_, _, reduction, ends⟩ := exists_run evaluator positive notBlank
  rw [known] at ends
  exact (wellGrouped_replay_iff reduction.plain).mp ends.ungrouped.wellGrouped

theorem emptyPair_of_emptyGroup (positive : evaluator.config.maxDepth ≠ 0) {text : Text}
    (failed : evaluator.evaluate expression = .error (.emptyGroup text)) : emptyPair <:+: expression := by
  obtain ⟨_, groups, reduction, refused⟩ := search_of_isGrouping evaluator positive failed trivial
  have here := search (replay expression groups)
  rw [refused] at here
  refine (emptyPair_occurs_replay_iff reduction.plain).mp ?_
  generalize known : (Except.error (.emptyGroup text) : Except EvalError (Option Text)) = result at here
  cases here with
  | pair shape _ => exact ⟨_, _, by rw [shape, List.append_assoc]⟩
  | opened _ | closed _ | nothing _ | early _ _ | group _ _ _ _ => simp at known

theorem more_opened_of_unbalancedGroup (positive : evaluator.config.maxDepth ≠ 0) {text : Text}
    (failed : evaluator.evaluate expression = .error (.unbalancedGroup text ')')) :
    expression.count ')' < expression.count '(' := by
  obtain ⟨_, groups, reduction, refused⟩ := search_of_isGrouping evaluator positive failed trivial
  have here := search (replay expression groups)
  rw [refused] at here
  refine (count_replay_lt_iff reduction.plain).mp ?_
  generalize known : (Except.error (.unbalancedGroup text ')') : Except EvalError (Option Text)) = result at here
  cases here with
  | opened more => exact more
  | pair _ _ =>
    simp only [emptyPairError] at known
    split at known <;> simp at known
  | closed _ | nothing _ | early _ _ | group _ _ _ _ => simp at known

/-- Without empty pairs, parentheses that match give rise to no error about parentheses. -/
theorem not_isGrouping_of_wellGrouped (positive : evaluator.config.maxDepth ≠ 0) (grouped : WellGrouped expression)
    {error : EvalError} (failed : evaluator.evaluate expression = .error error) : ¬ error.IsGrouping := by
  intro grouping
  obtain ⟨_, groups, reduction, refused⟩ := search_of_isGrouping evaluator positive failed grouping
  have last : WellGrouped (replay expression groups) := (wellGrouped_replay_iff reduction.plain).mpr grouped
  by_cases opens : '(' ∈ replay expression groups
  · obtain ⟨_, _, _, _, _, _, found⟩ := last.exists_first_group opens
    exact absurd (refused.symm.trans found) (by simp)
  · have found := innermostGroup?_of_ungrouped (last.1.ungrouped opens)
    exact absurd (refused.symm.trans found) (by simp)

/-! ## From the expression to the error -/

theorem not_isBlank_of_uneven (uneven : expression.count '(' ≠ expression.count ')') :
    ¬ Text.IsBlank expression := by
  intro blank
  have plain := blank.unmarked.ungrouped
  exact uneven (by rw [List.count_eq_zero.mpr plain.1, List.count_eq_zero.mpr plain.2])

/-- The parentheses are counted before anything is evaluated. -/
theorem trace_of_uneven (positive : evaluator.config.maxDepth ≠ 0)
    (uneven : expression.count '(' ≠ expression.count ')') :
    let missing := if expression.count ')' < expression.count '(' then ')' else '('
    let error := EvalError.unbalancedGroup expression missing
    evaluator.trace expression = ⟨[.failed expression error], .error error⟩ := by
  intro missing error
  obtain ⟨levels, limit⟩ := exists_levels positive
  have refused : innermostGroup? expression = .error error := by
    unfold innermostGroup?
    by_cases opened : expression.count ')' < expression.count '('
    · simp [error, missing, opened]
    · have closed : expression.count '(' < expression.count ')' := by omega
      simp [error, missing, opened, closed]
  have stops : ∀ value, reduceGroups value 1 expression = .fail error := by
    intro value
    rw [reduceGroups_eq, refused]
  rw [trace, if_neg (not_isBlank_of_uneven uneven)]
  simp only [limit, reduce, stops]
  rfl

/-- Only an expression whose parentheses match and hold something has a value. If more are opened than closed, or the
    other way round, this is the error, and nothing else happens. An empty group is only reported if there is one, and
    a closing parenthesis is only missed if more are opened. -/
theorem balanced_of_ok_and_error_of_count_ne (positive : evaluator.config.maxDepth ≠ 0) (expression : Text) :
    (∀ value, evaluator.evaluate expression = .ok value → Balanced expression ∧ ¬ emptyPair <:+: expression) ∧
    (expression.count '(' ≠ expression.count ')' →
      let missing := if expression.count ')' < expression.count '(' then ')' else '('
      let error := EvalError.unbalancedGroup expression missing
      evaluator.evaluate expression = .error error ∧
        (evaluator.trace expression).events = [.failed expression error]) ∧
    (∀ text, evaluator.evaluate expression = .error (.emptyGroup text) → emptyPair <:+: expression) ∧
    ∀ text, evaluator.evaluate expression = .error (.unbalancedGroup text ')') →
      expression.count ')' < expression.count '(' := by
  refine ⟨fun value known => ?_, fun uneven => ?_, fun text failed => ?_, fun text failed => ?_⟩
  · exact wellGrouped_of_evaluate_eq_ok evaluator positive known
  · have traced := trace_of_uneven evaluator positive uneven
    exact ⟨by rw [evaluate, traced], by rw [traced]⟩
  · exact emptyPair_of_emptyGroup evaluator positive failed
  · exact more_opened_of_unbalancedGroup evaluator positive failed

/-- The group in front has a value, but it is not asked for. -/
theorem balanced_of_ok_and_error_of_count_ne_uneven :
    let expression := "(1<2) || true)".toList
    ((default : Evaluator).trace expression).events = [.failed expression (.unbalancedGroup expression '(')] :=
  ((balanced_of_ok_and_error_of_count_ne default (by decide) _).2.1 (by decide)).2

/-! ## Empty pairs -/

theorem not_isBlank_of_emptyPair (front back : Text) : ¬ Text.IsBlank (front ++ (emptyPair ++ back)) :=
  fun blank => blank.unmarked.ungrouped.1 (by simp [emptyPair])

section

variable {front back : Text} (positive : evaluator.config.maxDepth ≠ 0)
  (balanced : Balanced (front ++ (emptyPair ++ back)))
include positive balanced

/-- An empty pair is found if nothing is closed before it any more. -/
theorem evaluate_of_open_emptyPair :
    let expression := front ++ (emptyPair ++ back)
    let groups := reducedGroups (evaluator.trace expression).events
    ')' ∉ replay front groups →
      evaluator.evaluate expression = .error (emptyPairError (replay expression groups) (replay back groups)) := by
  intro expression groups open_
  obtain ⟨_, _, reduction, ends⟩ := exists_run evaluator positive (not_isBlank_of_emptyPair front back)
  have shape : replay expression groups = replay front groups ++ (emptyPair ++ replay back groups) :=
    replay_append_emptyPair reduction.plain front back
  have last : Balanced (replay expression groups) := (balanced_replay_iff reduction.plain).mpr balanced
  refine ends.of_refused ?_
  rw [shape] at last ⊢
  have empty : Ungrouped [] := by decide
  exact innermostGroup?_closed empty open_ last.closed_eq

/-- If something is still closed before the first empty pair, the group that is closed first has no value. -/
theorem exists_failed_before_emptyPair (first : ¬ emptyPair <:+: front) :
    let expression := front ++ (emptyPair ++ back)
    let groups := reducedGroups (evaluator.trace expression).events
    ')' ∈ replay front groups →
      ∃ before group after error, replay front groups = before ++ (parenthesized group ++ after) ∧ ')' ∉ before ∧
        Ungrouped group ∧ evaluator.ungroupedValue group = .error error ∧ ¬ error.IsGrouping ∧
        evaluator.evaluate expression = .error error := by
  intro expression groups closes
  obtain ⟨value, known, reduction, ends⟩ := exists_run evaluator positive (not_isBlank_of_emptyPair front back)
  have shape : replay expression groups = replay front groups ++ (emptyPair ++ replay back groups) :=
    replay_append_emptyPair reduction.plain front back
  have last : Balanced (replay expression groups) := (balanced_replay_iff reduction.plain).mpr balanced
  have opened : ∀ prior, prior <+: replay front groups → prior.count ')' ≤ prior.count '(' :=
    fun prior inside => last.closed_le prior (inside.trans ⟨_, shape.symm⟩)
  obtain ⟨before, group, after, here, open_, plain⟩ := exists_first_group opened closes
  have filled : group ≠ [] := by
    rintro rfl
    refine first ((emptyPair_occurs_replay_iff reduction.plain).mp ⟨before, after, ?_⟩)
    rw [List.append_assoc]
    exact here.symm
  have whole : replay expression groups =
      before ++ (parenthesized group ++ (after ++ (emptyPair ++ replay back groups))) := by
    rw [shape, here]
    simp
  have found : innermostGroup? (replay expression groups) = .ok (some group) := by
    rw [whole] at last ⊢
    rw [innermostGroup?_closed plain open_ last.closed_eq, closedGroup, if_neg filled]
  -- The evaluation ends where a group is found, so this group has no value.
  obtain ⟨error, failed, outcome⟩ := ends.of_found found
  rw [known] at failed
  exact ⟨before, group, after, error, here, open_, plain, failed,
    not_isGrouping_of_ungroupedValue evaluator plain failed, outcome⟩

end

/-- What is behind an empty pair counts as a group that was not opened. -/
theorem unbalancedGroup_of_emptyPair :
    let expression := "() && true".toList
    Balanced expression ∧ (default : Evaluator).config.maxDepth ≠ 0 ∧
      (default : Evaluator).evaluate expression = .error (.unbalancedGroup ") && true".toList '(') := by
  decide +kernel

/-- If the parentheses match, an error about them comes from the first empty pair. It is reported as soon as the groups
    that are closed before it have values, and which error it is depends on what is behind it then. -/
theorem not_isGrouping_or_emptyPairError_of_balanced (positive : evaluator.config.maxDepth ≠ 0)
    (balanced : Balanced expression) :
    (¬ emptyPair <:+: expression →
      ∀ error, evaluator.evaluate expression = .error error → ¬ error.IsGrouping) ∧
    ∀ front back, expression = front ++ (emptyPair ++ back) → ¬ emptyPair <:+: front →
      let groups := reducedGroups (evaluator.trace expression).events
      (∃ before group after error, replay front groups = before ++ (parenthesized group ++ after) ∧ ')' ∉ before ∧
        Ungrouped group ∧ evaluator.ungroupedValue group = .error error ∧ ¬ error.IsGrouping ∧
        evaluator.evaluate expression = .error error) ∨
      ')' ∉ replay front groups ∧
        evaluator.evaluate expression = .error (emptyPairError (replay expression groups) (replay back groups)) := by
  constructor
  · intro absent error failed
    exact not_isGrouping_of_wellGrouped evaluator positive ⟨balanced, absent⟩ failed
  · rintro front back rfl first
    by_cases closes : ')' ∈ replay front (reducedGroups (evaluator.trace (front ++ (emptyPair ++ back))).events)
    · exact .inl (exists_failed_before_emptyPair evaluator positive balanced first closes)
    · exact .inr ⟨closes, evaluate_of_open_emptyPair evaluator positive balanced closes⟩

/-- The group behind the pair is a copy of the first one, and has given way to its value. -/
theorem not_isGrouping_or_emptyPairError_of_balanced_copied :
    (default : Evaluator).evaluate "(1<2) && (()(1<2))".toList = .error (.unbalancedGroup ")true)".toList '(') := by
  have balanced : Balanced "(1<2) && (()(1<2))".toList := by decide
  have shape : "(1<2) && (()(1<2))".toList = "(1<2) && (".toList ++ (emptyPair ++ "(1<2))".toList) := by decide
  have groups : reducedGroups ((default : Evaluator).trace "(1<2) && (()(1<2))".toList).events =
      [("1<2".toList, true)] := by decide +kernel
  have front : replay "(1<2) && (".toList [("1<2".toList, true)] = "true && (".toList := by decide +kernel
  have behind : emptyPairError (replay "(1<2) && (()(1<2))".toList [("1<2".toList, true)])
      (replay "(1<2))".toList [("1<2".toList, true)]) = .unbalancedGroup ")true)".toList '(' := by decide +kernel
  have known := (not_isGrouping_or_emptyPairError_of_balanced default (by decide) balanced).2 _ _ shape (by decide)
  rw [groups] at known
  rw [← behind]
  rcases known with ⟨before, group, after, _, here, _⟩ | ⟨_, reported⟩
  · -- Nothing is closed before the pair.
    rw [front] at here
    have mem : ')' ∈ "true && (".toList := by simp [here, parenthesized]
    exact absurd mem (by decide)
  · exact reported

end Evaluator
end Verdict
