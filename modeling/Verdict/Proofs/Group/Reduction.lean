import Verdict.Evaluation.Replay
import Verdict.Proofs.Evaluation
import Verdict.Proofs.Group.Substitution

/-!
# Reducing the groups of a text

What happens to a text while its groups are evaluated: one after the other gives way to its value, until the search for
the next one fails, or a group fails, or no group is left (`reduceGroups_run`). What is true of a text with regard to
its parentheses is true of what becomes of it, and the other way round.
-/
namespace Verdict

variable {value : Text → Traced Bool} {text group : Text} {groups : List (Text × Bool)}

/-! ## One group -/

/-- A group that is found has no parentheses, and is not empty. -/
theorem plain_of_found (found : innermostGroup? text = .ok (some group)) : Ungrouped group ∧ group ≠ [] := by
  have here := search text
  rw [found] at here
  cases here with
  | group _ _ plain nonempty => exact ⟨plain, nonempty⟩

/-- A group that is found is closed before any other. -/
theorem closed_first_of_found (found : innermostGroup? text = .ok (some group)) :
    ∃ front back, text = front ++ (parenthesized group ++ back) ∧ ')' ∉ front := by
  have here := search text
  rw [found] at here
  cases here with
  | group shape open_ _ _ => exact ⟨_, _, shape, open_⟩

/-- A group stands in the text. -/
theorem group_occurs (found : innermostGroup? text = .ok (some group)) : group <:+: text :=
  List.IsInfix.trans ⟨['('], [')'], rfl⟩ (parenthesized_occurs found)

theorem ungrouped_of_found_none (found : innermostGroup? text = .ok none) : Ungrouped text := by
  have here := search text
  rw [found] at here
  cases here with
  | nothing plain => exact plain

theorem reduceGroups_of_failed {depth : Nat} {error : EvalError} (found : innermostGroup? text = .ok (some group))
    (failed : (value group).outcome = .error error) :
    reduceGroups value depth text = ⟨(value group).events, .error error⟩ := by
  rw [reduceGroups_eq, found]
  dsimp only
  cases evaluated : value group with
  | mk events outcome =>
    rw [evaluated] at failed
    obtain rfl : outcome = .error error := failed
    rfl

theorem reduceGroups_of_reduced {depth : Nat} {result : Bool} (found : innermostGroup? text = .ok (some group))
    (known : (value group).outcome = .ok result) :
    reduceGroups value depth text =
      ⟨(value group).events ++
          .reducedGroup group result depth :: (reduceGroups value depth (substitute group result text)).events,
        (reduceGroups value depth (substitute group result text)).outcome⟩ := by
  rw [reduceGroups_eq, found]
  dsimp only
  cases evaluated : value group with
  | mk events outcome =>
    rw [evaluated] at known
    obtain rfl : outcome = .ok result := known
    rfl

/-! ## One group after the other -/

/-- The groups, with their values, are those that the search finds one after the other, each in what is left of the
    text once the groups before it have given way to their values. -/
inductive Reduction (value : Text → Traced Bool) : Text → List (Text × Bool) → Prop where
  | nil (text : Text) : Reduction value text []
  | cons {text group : Text} {result : Bool} {groups : List (Text × Bool)} :
    innermostGroup? text = .ok (some group) → (value group).outcome = .ok result →
      Reduction value (substitute group result text) groups → Reduction value text ((group, result) :: groups)

/-- How it ends: the search fails, or the next group does, or there are no groups left and the text is evaluated. -/
inductive Ends (value : Text → Traced Bool) (last : Text) : Except EvalError Bool → Prop where
  | refused {error : EvalError} : innermostGroup? last = .error error → Ends value last (.error error)
  | failed {group : Text} {error : EvalError} : innermostGroup? last = .ok (some group) →
    (value group).outcome = .error error → Ends value last (.error error)
  | plain : Ungrouped last → Ends value last (value last).outcome

namespace Ends

variable {last : Text} {outcome : Except EvalError Bool} {error : EvalError} {result : Bool}

theorem of_refused (ends : Ends value last outcome) (found : innermostGroup? last = .error error) :
    outcome = .error error := by
  cases ends with
  | refused here =>
    obtain rfl := Except.error.inj (here.symm.trans found)
    rfl
  | failed here _ => exact absurd (here.symm.trans found) (by simp)
  | plain here => exact absurd ((innermostGroup?_of_ungrouped here).symm.trans found) (by simp)

theorem of_found (ends : Ends value last outcome) (found : innermostGroup? last = .ok (some group)) :
    ∃ error, (value group).outcome = .error error ∧ outcome = .error error := by
  cases ends with
  | refused here => exact absurd (here.symm.trans found) (by simp)
  | failed here failed =>
    obtain rfl := Option.some.inj (Except.ok.inj (here.symm.trans found))
    exact ⟨_, failed, rfl⟩
  | plain here => exact absurd ((innermostGroup?_of_ungrouped here).symm.trans found) (by simp)

theorem ungrouped (ends : Ends value last (.ok result)) : Ungrouped last := by
  generalize known : Except.ok result = outcome at ends
  cases ends with
  | refused _ | failed _ _ => simp at known
  | plain here => exact here

/-- An error of a kind that texts without groups do not have comes from the search. -/
theorem refused_of {kind : EvalError → Prop} (ends : Ends value last (.error error)) (here : kind error)
    (other : ∀ text e, Ungrouped text → (value text).outcome = .error e → ¬ kind e) :
    innermostGroup? last = .error error := by
  generalize known : Except.error error = outcome at ends
  cases ends with
  | refused found =>
    obtain rfl := Except.error.inj known
    exact found
  | failed found failed =>
    obtain rfl := Except.error.inj known
    exact absurd here (other _ _ (plain_of_found found).1 failed)
  | plain plain => exact absurd here (other _ _ plain known.symm)

end Ends

/-- What holds where the search fails, where there are no groups and where a group fails, and for a text if it holds for
    what is left of it once a group has given way to its value, holds for every text. -/
theorem reduceGroups_induction {depth : Nat} {motive : Text → Traced Bool → Prop}
    (refused : ∀ text error, innermostGroup? text = .error error → motive text (.fail error))
    (plain : ∀ text, Ungrouped text → motive text (value text))
    (failed : ∀ text group error, innermostGroup? text = .ok (some group) → (value group).outcome = .error error →
      motive text ⟨(value group).events, .error error⟩)
    (reduced : ∀ text group result, innermostGroup? text = .ok (some group) → (value group).outcome = .ok result →
      ∀ rest, motive (substitute group result text) rest →
        motive text ⟨(value group).events ++ .reducedGroup group result depth :: rest.events, rest.outcome⟩)
    (text : Text) : motive text (reduceGroups value depth text) := by
  induction opens : text.count '(' using Nat.strongRecOn generalizing text with
  | _ n ih =>
    cases found : innermostGroup? text with
    | error error =>
      rw [reduceGroups_eq, found]
      exact refused text error found
    | ok next =>
      cases next with
      | none =>
        have groupless := ungrouped_of_found_none found
        rw [reduceGroups_of_ungrouped _ _ groupless]
        exact plain text groupless
      | some group =>
        cases known : (value group).outcome with
        | error error =>
          rw [reduceGroups_of_failed found known]
          exact failed text group error found known
        | ok result =>
          rw [reduceGroups_of_reduced found known]
          exact reduced text group result found known _ (ih _ (opens ▸ count_substitute_lt found result) _ rfl)

/-- The reduced groups that are reported lead from the text to where it ends, if the evaluation of a text without groups
    reports none. -/
theorem reduceGroups_run (quiet : ∀ text, Ungrouped text → reducedGroups (value text).events = []) (depth : Nat)
    (text : Text) :
    let groups := reducedGroups (reduceGroups value depth text).events
    Reduction value text groups ∧ Ends value (replay text groups) (reduceGroups value depth text).outcome := by
  refine reduceGroups_induction
    (motive := fun text traced => Reduction value text (reducedGroups traced.events) ∧
      Ends value (replay text (reducedGroups traced.events)) traced.outcome) ?_ ?_ ?_ ?_ text
  · intro text error found
    exact ⟨.nil text, .refused found⟩
  · intro text plain
    rw [quiet text plain]
    exact ⟨.nil text, .plain plain⟩
  · intro text group error found failed
    rw [quiet group (plain_of_found found).1]
    exact ⟨.nil text, .failed found failed⟩
  · rintro text group result found known rest ⟨reduction, ends⟩
    have front : (value group).events.filterMap Event.group? = [] := quiet group (plain_of_found found).1
    have groups : reducedGroups ((value group).events ++ .reducedGroup group result depth :: rest.events) =
        (group, result) :: reducedGroups rest.events := by
      rw [reducedGroups, List.filterMap_append, front]
      rfl
    rw [groups]
    exact ⟨.cons found known reduction, ends⟩

theorem Reduction.plain (reduction : Reduction value text groups) :
    ∀ item ∈ groups, Ungrouped item.1 ∧ item.1 ≠ [] := by
  induction reduction with
  | nil => simp
  | cons found _ _ ih =>
    intro item mem
    rcases List.mem_cons.mp mem with rfl | later
    · exact plain_of_found found
    · exact ih item later

section

variable {before after : List (Text × Bool)} {result : Bool}

/-- The later groups are found in what the earlier ones leave. -/
theorem Reduction.behind (reduction : Reduction value text (before ++ after)) :
    Reduction value (replay text before) after := by
  induction before generalizing text with
  | nil => exact reduction
  | cons item before ih =>
    cases reduction with
    | cons _ _ rest => exact ih rest

theorem Reduction.front (reduction : Reduction value text (before ++ after)) : Reduction value text before := by
  induction before generalizing text with
  | nil => exact .nil text
  | cons item before ih =>
    cases reduction with
    | cons found known rest => exact .cons found known (ih rest)

theorem Reduction.step (reduction : Reduction value text (before ++ (group, result) :: after)) :
    innermostGroup? (replay text before) = .ok (some group) ∧ (value group).outcome = .ok result := by
  cases reduction.behind with
  | cons found known _ => exact ⟨found, known⟩

end

/-! ## From the text to what becomes of it -/

section

variable (plain : ∀ item ∈ groups, Ungrouped item.1 ∧ item.1 ≠ [])
include plain

/-- What holds of a text exactly if it holds with a word in place of a group, holds of the text exactly if it holds in
    the end. -/
theorem replay_iff {p : Text → Prop}
    (step : ∀ text group result, Ungrouped group → group ≠ [] → (p (substitute group result text) ↔ p text)) :
    p (replay text groups) ↔ p text := by
  induction groups generalizing text with
  | nil => rfl
  | cons item groups ih =>
    obtain ⟨ungrouped, nonempty⟩ := plain item (by simp)
    exact (ih fun other mem => plain other (by simp [mem])).trans (step text item.1 item.2 ungrouped nonempty)

theorem balanced_replay_iff : Balanced (replay text groups) ↔ Balanced text :=
  replay_iff plain fun _ _ result ungrouped _ => balanced_substitute_iff ungrouped result

theorem emptyPair_occurs_replay_iff : emptyPair <:+: replay text groups ↔ emptyPair <:+: text :=
  replay_iff (p := (emptyPair <:+: ·)) plain
    fun _ _ result ungrouped nonempty => emptyPair_occurs_substitute_iff ungrouped nonempty result

theorem wellGrouped_replay_iff : WellGrouped (replay text groups) ↔ WellGrouped text :=
  and_congr (balanced_replay_iff plain) (not_congr (emptyPair_occurs_replay_iff plain))

theorem count_replay_lt_iff :
    (replay text groups).count ')' < (replay text groups).count '(' ↔ text.count ')' < text.count '(' := by
  refine replay_iff (p := fun text => text.count ')' < text.count '(') plain ?_
  intro text group result ungrouped _
  obtain ⟨opens, closes⟩ := count_substitute ungrouped result text
  omega

theorem replay_append_emptyPair (a b : Text) :
    replay (a ++ (emptyPair ++ b)) groups = replay a groups ++ (emptyPair ++ replay b groups) := by
  induction groups generalizing a b with
  | nil => rfl
  | cons item groups ih =>
    obtain ⟨ungrouped, nonempty⟩ := plain item (by simp)
    have next := ih (fun other mem => plain other (by simp [mem])) (substitute item.1 item.2 a)
      (substitute item.1 item.2 b)
    rw [← substitute_append_emptyPair ungrouped nonempty] at next
    exact next

end
end Verdict
