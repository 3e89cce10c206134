import Verdict.Proofs.Faults
import Verdict.Session.History

/-!
# What holds in every session

A limit of zero may stand in the draft, but never in the current evaluator (`Limited.run`), so no evaluation comes to
such a limit. What is built from the draft is each field as it was set last since the draft was started.
-/
namespace Verdict.Session

variable {session : Session}

/-! ## Placing an evaluator -/

theorem place_of_ne_zero (session : Session) {config : Config} (nonzero : config.maxDepth ≠ 0) :
    session.place config =
      ({ session with evaluator := ⟨config⟩ }, .installed config ((⟨config⟩ : Evaluator) != session.evaluator)) := by
  rw [place, Evaluator.ofConfig, if_neg nonzero]

/-- A refusal changes nothing. -/
theorem place_of_zero (session : Session) {config : Config} (zero : config.maxDepth = 0) :
    session.place config = (session, .refused .zeroDepth) := by
  rw [place, Evaluator.ofConfig, if_pos zero]

/-! ## The limit of the evaluator -/

/-- The current evaluator has a limit of at least one. -/
def Limited (session : Session) : Prop :=
  session.evaluator.config.maxDepth ≠ 0

theorem Limited.place (limited : session.Limited) (config : Config) : (session.place config).1.Limited := by
  by_cases zero : config.maxDepth = 0
  · rw [place_of_zero session zero]
    exact limited
  · rw [place_of_ne_zero session zero]
    exact zero

theorem Limited.step (limited : session.Limited) (step : Step) : (session.step step).1.Limited := by
  cases step with
  | build => exact limited.place session.draft
  | install config => exact limited.place config
  | newDraft | setComparison _ | setMaxDepth _ | showConfig | evaluate _ => exact limited

theorem showDraft_ne_outcome (session : Session) (outcome : Except EvalError Bool) :
    session.showDraft ≠ .outcome outcome := by
  unfold showDraft
  split <;> simp

theorem place_ne_outcome (session : Session) (config : Config) (outcome : Except EvalError Bool) :
    (session.place config).2 ≠ .outcome outcome := by
  unfold Session.place
  split <;> simp

/-- Only the evaluation of an expression is answered with its outcome. -/
theorem evaluate_of_answer {step : Step} {outcome : Except EvalError Bool}
    (answer : (session.step step).2 = .outcome outcome) :
    ∃ expression, step = .evaluate expression ∧ session.evaluator.evaluate expression = outcome := by
  cases step with
  | evaluate expression => exact ⟨expression, rfl, Answer.outcome.inj answer⟩
  | newDraft | setComparison _ | setMaxDepth _ =>
    simp only [Session.step] at answer
    exact absurd answer (showDraft_ne_outcome _ _)
  | build | install _ => exact absurd answer (place_ne_outcome _ _ _)
  | showConfig => simp [Session.step] at answer

theorem Limited.answer_step (limited : session.Limited) (step : Step) (text : Text) :
    (session.step step).2 ≠ .outcome (.error (.limitExceeded 0 text)) := by
  intro answer
  obtain ⟨expression, _, failed⟩ := evaluate_of_answer answer
  have same : 0 = session.evaluator.config.maxDepth.toNat :=
    (session.evaluator.isAbout_of_evaluate limited failed).truthful
  exact (Evaluator.toNat_limit_pos limited).ne same

theorem Limited.run (limited : session.Limited) (steps : List Step) :
    (session.run steps).1.Limited ∧
      ∀ text, .outcome (.error (.limitExceeded 0 text)) ∉ (session.run steps).2 := by
  induction steps generalizing session with
  | nil => exact ⟨limited, by simp [Session.run]⟩
  | cons step steps ih =>
    obtain ⟨later, answers⟩ := ih (limited.step step)
    refine ⟨later, fun text mem => ?_⟩
    rcases List.mem_cons.mp mem with first | rest
    · exact limited.answer_step step text first.symm
    · exact answers text rest

/-! ## The draft -/

/-- A field is as the last step has set it, back to the one that started the draft. -/
theorem lastSet_eq {α : Type} (set? : Step → Option α) (unset : α) (steps : List Step) :
    lastSet set? unset steps = ((steps.takeWhile (· ≠ .newDraft)).findSome? set?).getD unset := by
  induction steps with
  | nil => rfl
  | cons step earlier ih =>
    by_cases fresh : step = .newDraft
    · simp [lastSet, fresh]
    · cases set : set? step <;> simp [lastSet, fresh, set, ih]

theorem draft_eq (steps : List Step) :
    let since := steps.reverse.takeWhile (· ≠ .newDraft)
    (run {} steps).1.draft =
      ⟨(since.findSome? comparison?).getD .ordinal, (since.findSome? maxDepth?).getD 256⟩ := by
  rw [draft_run, drafted, lastSet_eq, lastSet_eq]

/-- After any steps, the current evaluator has a limit of at least one, and nothing that was asked of it on the way came
    to a limit of zero. Building puts in place what the draft was last set to since it was started, field by field. A
    configuration with a limit of zero is refused, from the draft or as it is given, and nothing changes. Nor does
    anything change when the evaluator is asked for its configuration or for a value. -/
theorem run_maxDepth_ne_zero_and_step_build (steps : List Step) :
    let session := (run {} steps).1
    let since := steps.reverse.takeWhile (· ≠ .newDraft)
    let config : Config := ⟨(since.findSome? comparison?).getD .ordinal, (since.findSome? maxDepth?).getD 256⟩
    session.evaluator.config.maxDepth ≠ 0 ∧
    (config.maxDepth ≠ 0 → session.step .build =
      ({ session with evaluator := ⟨config⟩ }, .installed config ((⟨config⟩ : Evaluator) != session.evaluator))) ∧
    (config.maxDepth = 0 → session.step .build = (session, .refused .zeroDepth)) ∧
    (∀ given : Config, given.maxDepth ≠ 0 → session.step (.install given) =
      ({ session with evaluator := ⟨given⟩ }, .installed given ((⟨given⟩ : Evaluator) != session.evaluator))) ∧
    (∀ given : Config, given.maxDepth = 0 → session.step (.install given) = (session, .refused .zeroDepth)) ∧
    (session.step .showConfig).1 = session ∧
    (∀ expression, (session.step (.evaluate expression)).1 = session) ∧
    ∀ text, .outcome (.error (.limitExceeded 0 text)) ∉ (run {} steps).2 := by
  intro session since config
  have start : Limited {} := by simp [Limited, default]
  obtain ⟨limited, answers⟩ := start.run steps
  have draft : session.draft = config := draft_eq steps
  refine ⟨limited, fun nonzero => ?_, fun zero => ?_, fun given nonzero => ?_, fun given zero => ?_, rfl, fun _ => rfl,
    answers⟩
  · rw [← draft] at nonzero ⊢
    exact place_of_ne_zero session nonzero
  · rw [← draft] at zero
    exact place_of_zero session zero
  · exact place_of_ne_zero session nonzero
  · exact place_of_zero session zero

/-- The first build is refused, and the comparison that was set before it is still there for the second one. -/
theorem run_maxDepth_ne_zero_and_step_build_refused :
    let session := (run {} [.setComparison .caseInsensitive, .setMaxDepth 0, .build, .setMaxDepth 3]).1
    session.evaluator = default ∧
      session.step .build =
        (⟨⟨.caseInsensitive, 3⟩, ⟨⟨.caseInsensitive, 3⟩⟩⟩, .installed ⟨.caseInsensitive, 3⟩ true) := by
  intro session
  obtain ⟨_, built, _⟩ := run_maxDepth_ne_zero_and_step_build
    [.setComparison .caseInsensitive, .setMaxDepth 0, .build, .setMaxDepth 3]
  exact ⟨rfl, built (by decide)⟩

end Verdict.Session
