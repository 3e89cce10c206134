import Verdict.Proofs.Group.Account

/-!
# Accepted expressions

An expression has a value exactly where its parentheses match and one pass over it finds that value: a pair with
nothing in it, or an expression with nothing in it, stops the pass as well.
-/
namespace Verdict

/-- The pass over a front stops with an error, or comes to a state, whatever follows. -/
theorem exists_onePass_state (value : Text → Except EvalError Bool) (outer : List Text) (buffer front : Text) :
    ∃ state : Except EvalError (List Text × Text), ∀ rest,
      onePass value outer buffer (front ++ rest) = state.bind fun last => onePass value last.1 last.2 rest := by
  induction front generalizing outer buffer with
  | nil => exact ⟨.ok (outer, buffer), fun _ => rfl⟩
  | cons c front ih =>
    by_cases opens : c = '('
    · subst opens
      obtain ⟨state, same⟩ := ih (buffer :: outer) []
      exact ⟨state, fun rest => (onePass_open value outer buffer _).trans (same rest)⟩
    · by_cases closes : c = ')'
      · subst closes
        cases outer with
        | nil =>
          obtain ⟨state, same⟩ := ih [] (buffer ++ [')'])
          exact ⟨state, fun rest => (onePass_stray value buffer _).trans (same rest)⟩
        | cons before others =>
          cases known : value buffer with
          | error error =>
            refine ⟨.error error, fun rest => ?_⟩
            rw [List.cons_append, onePass_close, known]
            rfl
          | ok result =>
            obtain ⟨state, same⟩ := ih others (before ++ Boolean.word result)
            refine ⟨state, fun rest => ?_⟩
            rw [List.cons_append, onePass_close, known]
            exact same rest
      · obtain ⟨state, same⟩ := ih outer (buffer ++ [c])
        exact ⟨state, fun rest => (onePass_char value opens closes outer buffer _).trans (same rest)⟩

/-- The pass does not come past a pair with nothing in it if nothing has no value. -/
theorem not_emptyPair_of_onePass {value : Text → Except EvalError Bool} (blank : ∀ result, value [] ≠ .ok result)
    {text : Text} {result : Bool} (known : onePass value [] [] text = .ok result) : ¬ emptyPair <:+: text := by
  rintro ⟨front, back, rfl⟩
  obtain ⟨state, same⟩ := exists_onePass_state value [] [] front
  rw [List.append_assoc, same] at known
  cases state with
  | error error => exact absurd known (by simp [Except.bind])
  | ok last =>
    change onePass value last.1 last.2 ('(' :: ')' :: back) = .ok result at known
    rw [onePass_open, onePass_close] at known
    cases inner : value [] with
    | error error => exact absurd known (by simp [inner, Except.bind])
    | ok result => exact blank result inner

namespace Evaluator

/-- What has a value, in terms of the pass. -/
theorem evaluate_eq_ok_iff_onePass (evaluator : Evaluator) (positive : evaluator.config.maxDepth ≠ 0)
    {expression : Text} {value : Bool} :
    evaluator.evaluate expression = .ok value ↔
      Balanced expression ∧ onePass evaluator.ungroupedValue [] [] expression = .ok value := by
  constructor
  · intro known
    have grouped := wellGrouped_of_evaluate_eq_ok evaluator positive known
    have notBlank : ¬ Text.IsBlank expression := by
      intro blank
      simp [evaluate, trace_of_isBlank evaluator blank] at known
    exact ⟨grouped.1, (evaluate_eq_onePass evaluator positive grouped notBlank).symm.trans known⟩
  · rintro ⟨balanced, known⟩
    have empty : ∀ result, evaluator.ungroupedValue [] ≠ .ok result := fun result inner =>
      not_isBlank_of_ungroupedValue evaluator inner (by decide)
    have notBlank : ¬ Text.IsBlank expression := by
      intro blank
      rw [(Passes.of_ungrouped blank.unmarked.ungrouped).onePass_eq] at known
      exact not_isBlank_of_ungroupedValue evaluator known blank
    exact (evaluate_eq_onePass evaluator positive ⟨balanced, not_emptyPair_of_onePass empty known⟩ notBlank).trans known

end Evaluator
end Verdict
