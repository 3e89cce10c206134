import Verdict.Session

/-!
# The history of a draft

What a draft is depends only on the steps that set something in it since it was started: each field is what it was set
to last (`draft_run`). Nothing else that happens in a session changes the draft.
-/
namespace Verdict.Session

def comparison? : Step → Option Comparison
  | .setComparison mode => some mode
  | _ => none

def maxDepth? : Step → Option UInt64
  | .setMaxDepth limit => some limit
  | _ => none

/-- What a field was set to last since the draft was started. The steps are given from the last one back. -/
def lastSet {α : Type} (set? : Step → Option α) (unset : α) : List Step → α
  | [] => unset
  | step :: earlier => if step = .newDraft then unset else (set? step).getD (lastSet set? unset earlier)

/-- The draft after steps, given from the last one back. -/
def drafted (steps : List Step) : Config where
  comparison := lastSet comparison? ({} : Config).comparison steps
  maxDepth := lastSet maxDepth? ({} : Config).maxDepth steps

theorem draft_place (session : Session) (config : Config) : (session.place config).1.draft = session.draft := by
  unfold place
  split <;> rfl

/-- One more step sets one field, starts a new draft, or keeps the draft. -/
theorem draft_step {session : Session} {earlier : List Step} (before : session.draft = drafted earlier)
    (step : Step) : (session.step step).1.draft = drafted (step :: earlier) := by
  cases step <;> simp_all [Session.step, drafted, lastSet, comparison?, maxDepth?, draft_place]

/-- The draft of a session that began with nothing set. -/
theorem draft_run (steps : List Step) : (run {} steps).1.draft = drafted steps.reverse := by
  have general : ∀ (session : Session) (earlier : List Step), session.draft = drafted earlier →
      (session.run steps).1.draft = drafted (steps.reverse ++ earlier) := by
    induction steps with
    | nil => intro session earlier before; simpa [run] using before
    | cons step rest ih =>
      intro session earlier before
      simpa [run] using ih _ _ (draft_step before step)
  simpa using general {} [] rfl

end Verdict.Session
