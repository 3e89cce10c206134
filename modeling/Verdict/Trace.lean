import Verdict.Error
import Verdict.Split

/-!
# Traced evaluation

An evaluation reports what it does while it goes on. Its events stand in the order in which they happen, and those
before an error are kept. Results, errors and events go together in `Traced`, which is a monad.
-/
namespace Verdict

/-- Something that an evaluation reports. The depth is one for the expression itself, and one more within each
    operand. -/
inductive Event where
  /-- A text is cut at an operator, before either operand is looked at. -/
  | split (split : Split) (depth : Nat)
  /-- A group has a value, before the value takes its place. -/
  | reducedGroup (group : Text) (result : Bool) (depth : Nat)
  /-- The expression has no value. -/
  | failed (expression : Text) (error : EvalError)
  deriving DecidableEq, Repr

namespace Event

def level : Event → String
  | .split .. | .reducedGroup .. => "TRACE"
  | .failed .. => "DEBUG"

/-- What happened, in words. -/
def message : Event → String
  | .split .. => "split"
  | .reducedGroup .. => "reduced group"
  | .failed .. => "evaluation failed"

end Event

/-- The events of an evaluation, and what it comes to. -/
structure Traced (α : Type) where
  events : List Event
  outcome : Except EvalError α

namespace Traced

variable {α β : Type}

def ok (value : α) : Traced α :=
  ⟨[], .ok value⟩

def fail (error : EvalError) : Traced α :=
  ⟨[], .error error⟩

/-- What is known already, without events. -/
def ofExcept (outcome : Except EvalError α) : Traced α :=
  ⟨[], outcome⟩

def report (event : Event) : Traced Unit :=
  ⟨[event], .ok ()⟩

/-- Goes on with the value, unless there is an error. -/
def andThen (first : Traced α) (next : α → Traced β) : Traced β :=
  match first.outcome with
  | .ok value =>
    let second := next value
    ⟨first.events ++ second.events, second.outcome⟩
  | .error error => ⟨first.events, .error error⟩

instance : Monad Traced where
  pure := ok
  bind := andThen

@[simp] theorem pure_eq (value : α) : (pure value : Traced α) = ok value := rfl

@[simp] theorem ok_bind (value : α) (next : α → Traced β) : ok value >>= next = next value := by
  change andThen (ok value) next = next value
  simp [andThen, ok]

@[simp] theorem fail_bind (error : EvalError) (next : α → Traced β) : fail error >>= next = fail error := rfl

theorem report_bind (event : Event) (next : Unit → Traced β) :
    report event >>= next = ⟨event :: (next ()).events, (next ()).outcome⟩ := rfl

theorem bind_assoc {γ : Type} (first : Traced α) (next : α → Traced β) (last : β → Traced γ) :
    first >>= next >>= last = first >>= fun value => next value >>= last := by
  change andThen (andThen first next) last = andThen first fun value => andThen (next value) last
  unfold andThen
  cases first.outcome with
  | error error => rfl
  | ok value => cases outcome : (next value).outcome <;> simp [outcome]

instance : LawfulMonad Traced :=
  LawfulMonad.mk' Traced
    (fun traced => by
      change andThen traced ok = traced
      obtain ⟨events, outcome⟩ := traced
      cases outcome <;> simp [andThen, ok])
    (fun value next => ok_bind value next)
    (fun first next last => bind_assoc first next last)

theorem outcome_bind (first : Traced α) (next : α → Traced β) :
    (first >>= next).outcome = first.outcome.bind fun value => (next value).outcome := by
  change (andThen first next).outcome = _
  unfold andThen
  cases first.outcome <;> rfl

/-- The traced evaluation with one more event at its end if there is an error. -/
def onError (traced : Traced α) (event : EvalError → Event) : Traced α :=
  match traced.outcome with
  | .ok _ => traced
  | .error error => ⟨traced.events ++ [event error], .error error⟩

end Traced
end Verdict
