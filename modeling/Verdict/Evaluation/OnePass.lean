import Verdict.Evaluator

/-!
# Evaluation in one pass

The value of an expression, found in one pass from left to right. What stands before each open parenthesis is kept;
a closing parenthesis ends the innermost group, whose truth value goes behind what was kept for it.
-/
namespace Verdict

/-- Reads the rest of a text. Behind the last open parenthesis stands `buffer`, and the texts before the open
    parentheses are `outer`, the innermost first. A closing parenthesis without a partner is kept as it is. -/
def onePass (value : Text → Except EvalError Bool) (outer : List Text) (buffer : Text) :
    Text → Except EvalError Bool
  | [] => value buffer
  | c :: rest =>
    if c = '(' then onePass value (buffer :: outer) [] rest
    else if c = ')' then
      match outer with
      | [] => onePass value [] (buffer ++ [c]) rest
      | before :: others => do
        let result ← value buffer
        onePass value others (before ++ Boolean.word result) rest
    else onePass value outer (buffer ++ [c]) rest

/-- The value of a text without groups, as part of an expression itself. -/
def Evaluator.ungroupedValue (evaluator : Evaluator) (text : Text) : Except EvalError Bool :=
  let limit := evaluator.config.maxDepth.toNat
  (ungrouped evaluator.config.comparison 1 (reduce evaluator.config.comparison limit (limit - 1) 2) text).outcome

/-- The value of an expression whose parentheses match, in one pass. -/
def Evaluator.evaluateOnePass (evaluator : Evaluator) (expression : Text) : Except EvalError Bool :=
  if Text.IsBlank expression then .error .emptyInput
  else onePass evaluator.ungroupedValue [] [] expression

/-- Characters that are no parentheses are put into the buffer. -/
theorem onePass_append {text : Text} (opens : '(' ∉ text) (closes : ')' ∉ text)
    (value : Text → Except EvalError Bool) (outer : List Text) (buffer rest : Text) :
    onePass value outer buffer (text ++ rest) = onePass value outer (buffer ++ text) rest := by
  induction text generalizing buffer with
  | nil => simp
  | cons c text ih =>
    have notOpen : c ≠ '(' := fun h => opens (by simp [h])
    have notClose : c ≠ ')' := fun h => closes (by simp [h])
    have next := ih (fun h => opens (by simp [h])) (fun h => closes (by simp [h])) (buffer ++ [c])
    rw [List.append_assoc, List.singleton_append] at next
    rw [List.cons_append, ← next]
    simp [onePass.eq_def value outer buffer (c :: (text ++ rest)), notOpen, notClose]

end Verdict
