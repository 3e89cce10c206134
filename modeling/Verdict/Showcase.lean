import Verdict.Evaluator

/-!
# Showcase

A few expressions and what becomes of them, one line each, with strings compared in lower case.
-/
namespace Verdict.Showcase

/-- The evaluator of the showcase. -/
def evaluator : Evaluator :=
  ⟨{ comparison := .caseInsensitive }⟩

/-- The expressions of the showcase. -/
def expressions : List String :=
  ["(\"text123\" == \"TEXT123\") && (7 <= 8)",
   "(false || (true == (false || (true == (false || true)))))",
   "-7 < 7",
   "2 < 3 < 4",
   "()"]

/-- What becomes of an expression, in words. -/
def describe : Except EvalError Bool → String
  | .ok value => String.ofList (Boolean.word value)
  | .error error => "error: " ++ error.message

/-- The line of an expression. -/
def line (expression : String) : String :=
  expression ++ " => " ++ describe (evaluator.evaluate expression.toList)

/-- The lines of the showcase. -/
def lines : List String :=
  expressions.map line

end Verdict.Showcase
