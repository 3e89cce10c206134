import Verdict.Config.Basic
import Verdict.Evaluation

/-!
# Evaluators

An evaluator holds how strings are compared and how deeply operands may be nested. A limit of zero is refused
(`Evaluator.ofConfig_eq_ok_iff`), for it would leave no expression with a value.
-/
namespace Verdict

/-- Something that evaluates expressions. -/
structure Evaluator where
  config : Config
  deriving DecidableEq, Repr

namespace Evaluator

/-- The evaluator with nothing set. -/
instance : Inhabited Evaluator := ⟨⟨default⟩⟩

/-- The evaluator with a configuration, unless the configuration is refused. -/
def ofConfig (config : Config) : Except ConfigError Evaluator :=
  if config.maxDepth = 0 then .error .zeroDepth else .ok ⟨config⟩

theorem ofConfig_eq_ok_iff {config : Config} {evaluator : Evaluator} :
    ofConfig config = .ok evaluator ↔ config.maxDepth ≠ 0 ∧ evaluator = ⟨config⟩ := by
  by_cases zero : config.maxDepth = 0 <;> simp [ofConfig, zero, eq_comm]

/-- What becomes of an expression, with everything that happens on the way. A blank expression is refused before
    anything happens; any other error is reported at the end. -/
def trace (evaluator : Evaluator) (expression : Text) : Traced Bool :=
  if Text.IsBlank expression then .fail .emptyInput
  else
    let limit := evaluator.config.maxDepth.toNat
    (reduce evaluator.config.comparison limit limit 1 expression).onError (.failed expression)

/-- The value of an expression, or why it has none. -/
def evaluate (evaluator : Evaluator) (expression : Text) : Except EvalError Bool :=
  (evaluator.trace expression).outcome

end Evaluator
end Verdict
