import Verdict.Evaluator

/-!
# Sessions

A session has a draft of a configuration and a current evaluator. Steps change the draft, put an evaluator in place of
the current one, or ask for something. A step that is refused changes nothing.
-/
namespace Verdict

inductive Step where
  /-- Starts a new draft with nothing set. -/
  | newDraft
  | setComparison (mode : Comparison)
  | setMaxDepth (limit : UInt64)
  /-- Makes the evaluator that is drafted the current one. -/
  | build
  /-- Makes the evaluator with a configuration the current one, past the draft. -/
  | install (config : Config)
  /-- Asks for the configuration of the current evaluator. -/
  | showConfig
  /-- Asks the current evaluator for the value of an expression. -/
  | evaluate (expression : Text)
  deriving DecidableEq, Repr

inductive Answer where
  /-- The draft as it stands. -/
  | drafted (config : Config)
  /-- A new evaluator is in place; `changed` says whether it differs from the one before it. -/
  | installed (config : Config) (changed : Bool)
  | current (config : Config)
  | outcome (outcome : Except EvalError Bool)
  /-- The step or the draft is refused. -/
  | refused (error : ConfigError)

structure Session where
  draft : Config := {}
  evaluator : Evaluator := default
  deriving DecidableEq, Repr

namespace Session

/-- The answer to a change of the draft: the draft, unless no evaluator could be built from it. -/
def showDraft (session : Session) : Answer :=
  match Evaluator.ofConfig session.draft with
  | .ok evaluator => .drafted evaluator.config
  | .error error => .refused error

/-- Makes the evaluator with a configuration the current one, if there is one. -/
def place (session : Session) (config : Config) : Session × Answer :=
  match Evaluator.ofConfig config with
  | .ok evaluator =>
    ({ session with evaluator := evaluator }, .installed evaluator.config (evaluator != session.evaluator))
  | .error error => (session, .refused error)

def step (session : Session) : Step → Session × Answer
  | .newDraft =>
    let next := { session with draft := {} }
    (next, next.showDraft)
  | .setComparison mode =>
    let next := { session with draft := { session.draft with comparison := mode } }
    (next, next.showDraft)
  | .setMaxDepth limit =>
    let next := { session with draft := { session.draft with maxDepth := limit } }
    (next, next.showDraft)
  | .build => session.place session.draft
  | .install config => session.place config
  | .showConfig => (session, .current session.evaluator.config)
  | .evaluate expression => (session, .outcome (session.evaluator.evaluate expression))

def run (session : Session) : List Step → Session × List Answer
  | [] => (session, [])
  | first :: rest =>
    let (next, answer) := session.step first
    let (last, answers) := next.run rest
    (last, answer :: answers)

theorem run_append (session : Session) (first second : List Step) :
    session.run (first ++ second) =
      let (between, before) := session.run first
      let (last, after) := between.run second
      (last, before ++ after) := by
  induction first generalizing session with
  | nil => rfl
  | cons step rest ih => simp [run, ih]

end Session
end Verdict
