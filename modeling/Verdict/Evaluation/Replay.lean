import Verdict.Evaluation

/-!
# Replaying a trace

The events of an evaluation tell which groups it reduced, in order. Substituting their values into the expression one
after the other gives back the texts that the evaluation went through.
-/
namespace Verdict

/-- The group of an event and its value. -/
def Event.group? : Event → Option (Text × Bool)
  | .reducedGroup group result _ => some (group, result)
  | _ => none

/-- The split of an event and its depth. -/
def Event.split? : Event → Option (Split × Nat)
  | .split cut depth => some (cut, depth)
  | _ => none

/-- The groups that were reduced, with their values, in order. -/
def reducedGroups (events : List Event) : List (Text × Bool) :=
  events.filterMap Event.group?

/-- The splits that were found, with their depths, in order. -/
def splits (events : List Event) : List (Split × Nat) :=
  events.filterMap Event.split?

theorem splits_append (first second : List Event) : splits (first ++ second) = splits first ++ splits second :=
  List.filterMap_append

/-- A text in which groups have given way to their values, one after the other. -/
def replay (text : Text) (groups : List (Text × Bool)) : Text :=
  groups.foldl (fun text (group, result) => substitute group result text) text

theorem replay_cons (text group : Text) (result : Bool) (groups : List (Text × Bool)) :
    replay text ((group, result) :: groups) = replay (substitute group result text) groups :=
  rfl

end Verdict
