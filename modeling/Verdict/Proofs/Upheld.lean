import Verdict.Evaluation.Replay
import Verdict.Proofs.Descent
import Verdict.Proofs.Errors
import Verdict.Proofs.Group.Reduction
import Verdict.Proofs.Sides

/-!
# What every evaluation upholds

Something that holds of every event and every error of the single steps of an evaluation holds of those of the whole
evaluation (`Upholds.reduce`, and with groups `Traced.Within.reduceGroups`). What the steps need to know of the texts
has to go over from a text to the sides of its split. One case is that texts without parentheses have no groups to
reduce, and no errors about parentheses (`upholds_ungrouped`).
-/
namespace Verdict

/-! ## Events and errors of an evaluation -/

/-- All events are of one kind, and the error, if there is one, is of one kind. -/
structure Traced.Within {α : Type} (event : Event → Prop) (error : EvalError → Prop) (traced : Traced α) : Prop where
  events : ∀ e ∈ traced.events, event e
  errors : ∀ e, traced.outcome = .error e → error e

namespace Traced.Within

variable {α β : Type} {event : Event → Prop} {error : EvalError → Prop}

theorem ok (value : α) : (Traced.ok value).Within event error :=
  ⟨by simp [Traced.ok], by simp⟩

theorem fail {e : EvalError} (here : error e) : (Traced.fail e : Traced α).Within event error := by
  refine ⟨by simp [Traced.fail], fun other same => ?_⟩
  obtain rfl : e = other := by simpa using same
  exact here

theorem ofExcept {outcome : Except EvalError α} (errors : ∀ e, outcome = .error e → error e) :
    (Traced.ofExcept outcome).Within event error :=
  ⟨by simp [Traced.ofExcept], errors⟩

theorem report {e : Event} (here : event e) : (Traced.report e).Within event error := by
  refine ⟨fun other mem => ?_, by simp [Traced.report]⟩
  obtain rfl : other = e := by simpa [Traced.report] using mem
  exact here

theorem bind {first : Traced α} {next : α → Traced β} (one : first.Within event error)
    (more : ∀ value, (next value).Within event error) : (first >>= next).Within event error := by
  obtain ⟨events, outcome⟩ := first
  cases outcome with
  | error e =>
    refine ⟨one.events, fun other same => ?_⟩
    obtain rfl : e = other := Except.error.inj same
    exact one.errors e rfl
  | ok value =>
    refine ⟨fun e mem => ?_, (more value).errors⟩
    rcases List.mem_append.mp mem with here | later
    · exact one.events e here
    · exact (more value).events e later

end Traced.Within

/-! ## From the steps to the whole -/

/-- What is known of texts, with so many levels left at a depth, goes over to the sides of their splits that may be
    evaluated one level deeper, and the events and errors of each step in such a text are of one kind. -/
structure Upholds (mode : Comparison) (limit : Nat) (known : (levels depth : Nat) → Text → Prop)
    (event : Event → Prop) (error : EvalError → Prop) : Prop where
  plain : ∀ levels depth text, known levels depth text → Ungrouped text
  sides : ∀ levels depth text split, known (levels + 1) depth text → Split.first? text = some split →
    split.operator.isRelational = false → known levels (depth + 1) split.left ∧ known levels (depth + 1) split.right
  split : ∀ levels depth text split, known (levels + 1) depth text → Split.first? text = some split →
    event (.split split depth)
  truth : ∀ levels depth text e, known levels depth text → Boolean.ofText text = .error e → error e
  equals : ∀ levels depth text split e, known levels depth text → Split.first? text = some split →
    split.operator.isRelational = false →
      Operand.equals mode text split.operator (Operand.ofText split.left) (Operand.ofText split.right) = .error e →
        error e
  relation : ∀ levels depth text split e, known levels depth text → Split.first? text = some split →
    split.operator.isRelational = true → relation text split = .error e → error e
  limit : ∀ depth text, known 0 depth text → error (.limitExceeded limit text)

namespace Upholds

variable {mode : Comparison} {limit : Nat} {known : (levels depth : Nat) → Text → Prop} {event : Event → Prop}
  {error : EvalError → Prop} {descend : Text → Traced Bool} {levels depth : Nat} {text : Text} {split : Split}

theorem sideValue (upholds : Upholds mode limit known event error)
    (deeper : ∀ text, known levels depth text → (descend text).Within event error) (here : known levels depth text)
    (descends : Bool) : (Verdict.sideValue descend descends text).Within event error := by
  cases descends with
  | true => exact deeper text here
  | false => exact .ofExcept fun e => upholds.truth levels depth text e here

theorem splitValue (upholds : Upholds mode limit known event error)
    (deeper : ∀ text, known levels (depth + 1) text → (descend text).Within event error)
    (here : known (levels + 1) depth text) (found : Split.first? text = some split) :
    (Verdict.splitValue mode descend text split).Within event error := by
  cases planned_splitValue mode text split with
  | atOnce outcome errors same =>
    rw [same descend]
    apply Traced.Within.ofExcept
    intro e failed
    rcases errors e failed with ⟨relational, order⟩ | ⟨truthful, equality⟩
    · exact upholds.relation _ _ text split e here found relational order
    · exact upholds.equals _ _ text split e here found truthful equality
  | fromSides truthful first second combine same =>
    obtain ⟨left, right⟩ := upholds.sides levels depth text split here found truthful
    rw [same descend]
    refine (upholds.sideValue deeper left first).bind fun _ => ?_
    exact (upholds.sideValue deeper right second).bind fun _ => .ok _

theorem ungrouped (upholds : Upholds mode limit known event error) (levels depth : Nat)
    (deeper : ∀ text, known levels (depth + 1) text → (descend text).Within event error)
    (here : known (levels + 1) depth text) : (Verdict.ungrouped mode depth descend text).Within event error := by
  unfold Verdict.ungrouped
  cases found : Split.first? text with
  | none => exact .ofExcept fun e => upholds.truth _ _ text e here
  | some split =>
    exact (Traced.Within.report (upholds.split levels depth text split here found)).bind fun _ =>
      upholds.splitValue deeper here found

/-- The whole evaluation of a text has events and errors of the same kind as its steps. -/
theorem reduce (upholds : Upholds mode limit known event error) (levels depth : Nat) (here : known levels depth text) :
    (Verdict.reduce mode limit levels depth text).Within event error := by
  induction levels generalizing depth text with
  | zero => exact .fail (upholds.limit depth text here)
  | succ levels ih =>
    rw [Verdict.reduce, reduceGroups_of_ungrouped _ _ (upholds.plain _ _ text here)]
    exact upholds.ungrouped levels depth (fun text here => ih (depth + 1) here) here

end Upholds

/-! ## From the groups to the whole -/

/-- What is known of a text goes over to its groups and to what is left of it, and the events and errors of the search,
    of the groups and of a text without groups are of one kind. -/
theorem Traced.Within.reduceGroups {event : Event → Prop} {error : EvalError → Prop} {value : Text → Traced Bool}
    {depth : Nat} (known : Text → Prop)
    (search : ∀ text e, known text → innermostGroup? text = .error e → error e)
    (plain : ∀ text, known text → Ungrouped text → (value text).Within event error)
    (group : ∀ text group, known text → innermostGroup? text = .ok (some group) → known group)
    (reduced : ∀ text group result, known text → innermostGroup? text = .ok (some group) →
      (value group).outcome = .ok result →
        event (.reducedGroup group result depth) ∧ known (substitute group result text))
    {text : Text} (here : known text) : (Verdict.reduceGroups value depth text).Within event error := by
  have inner : ∀ {text inner}, known text → innermostGroup? text = .ok (some inner) →
      (value inner).Within event error :=
    fun here found => plain _ (group _ _ here found) (plain_of_found found).1
  refine reduceGroups_induction (motive := fun text traced => known text → traced.Within event error)
    ?_ ?_ ?_ ?_ text here
  · intro text e found here
    exact .fail (search text e here found)
  · intro text groupless here
    exact plain text here groupless
  · intro text group e found failed here
    have within := inner here found
    refine ⟨within.events, fun other same => ?_⟩
    obtain rfl := Except.error.inj same
    exact within.errors e failed
  · intro text group result found known rest behind here
    obtain ⟨reported, left⟩ := reduced text group result here found known
    refine ⟨fun e mem => ?_, (behind left).errors⟩
    rcases List.mem_append.mp mem with before | after
    · exact (inner here found).events e before
    · rcases List.mem_cons.mp after with rfl | after
      · exact reported
      · exact (behind left).events e after

/-! ## Two cases -/

/-- Where any error about operands is of the kind, only the splits and the limit are left to look at. -/
theorem Upholds.of_isOperand {mode : Comparison} {limit : Nat} {known : (levels depth : Nat) → Text → Prop}
    {event : Event → Prop} {error : EvalError → Prop} (operand : ∀ e : EvalError, e.IsOperand → error e)
    (plain : ∀ levels depth text, known levels depth text → Ungrouped text)
    (sides : ∀ levels depth text split, known (levels + 1) depth text → Split.first? text = some split →
      split.operator.isRelational = false → known levels (depth + 1) split.left ∧ known levels (depth + 1) split.right)
    (split : ∀ levels depth text split, known (levels + 1) depth text → Split.first? text = some split →
      event (.split split depth))
    (limited : ∀ depth text, known 0 depth text → error (.limitExceeded limit text)) :
    Upholds mode limit known event error where
  plain := plain
  sides := sides
  split := split
  truth _ _ _ e _ failed := operand e (Boolean.isOperand_of_ofText failed)
  equals _ _ _ _ e _ _ _ failed := operand e (isOperand_of_equals failed)
  relation _ _ _ _ e _ _ _ failed := operand e (isOperand_of_relation failed)
  limit := limited

/-- In a text without parentheses no group is reduced, and no error is about parentheses. -/
theorem upholds_ungrouped (mode : Comparison) (limit : Nat) :
    Upholds mode limit (fun _ _ => Ungrouped) (fun event => event.group? = none)
      (fun error => ¬ error.IsGrouping) := by
  apply Upholds.of_isOperand
  · exact fun _ operand => operand.not_isGrouping
  · exact fun _ _ _ plain => plain
  · exact fun _ _ _ _ plain found _ => Split.ungrouped_sides plain found
  · exact fun _ _ _ _ _ _ => rfl
  · exact fun _ _ _ => not_false

end Verdict
