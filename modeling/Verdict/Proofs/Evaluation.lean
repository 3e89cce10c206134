import Verdict.Evaluator
import Verdict.Proofs.Group.Innermost

/-!
# What an evaluation comes to

The outcomes of the parts of an evaluation, apart from what they report.
-/
namespace Verdict

theorem toOption_eq_some_iff {ε α : Type} {outcome : Except ε α} {value : α} :
    outcome.toOption = some value ↔ outcome = .ok value := by
  cases outcome <;> simp [Except.toOption]

theorem toOption_bind {ε α β : Type} (first : Except ε α) (next : α → Except ε β) :
    (first.bind next).toOption = first.toOption.bind fun value => (next value).toOption := by
  cases first <;> rfl

/-- The values of two steps, combined. -/
theorem toOption_both {ε α β : Type} (first second : Except ε α) (combine : α → α → β) :
    (first >>= fun a => second >>= fun b => pure (combine a b)).toOption =
      first.toOption.bind fun a => second.toOption.bind fun b => some (combine a b) := by
  cases first with
  | error error => rfl
  | ok a => cases second <;> rfl

namespace Traced

variable {α β : Type}

@[simp] theorem outcome_ok (value : α) : (ok value).outcome = .ok value := rfl

@[simp] theorem outcome_fail (error : EvalError) : (fail error : Traced α).outcome = .error error := rfl

@[simp] theorem outcome_onError (traced : Traced α) (event : EvalError → Event) :
    (traced.onError event).outcome = traced.outcome := by
  unfold onError
  split <;> simp_all

/-- The value that an evaluation comes to, if it comes to one. -/
def value? (traced : Traced α) : Option α :=
  traced.outcome.toOption

theorem value?_bind (first : Traced α) (next : α → Traced β) :
    (first >>= next).value? = first.value?.bind fun value => (next value).value? := by
  rw [value?, outcome_bind, toOption_bind]
  rfl

/-- The values of two steps, combined. -/
theorem value?_both (first second : Traced α) (combine : α → α → β) :
    (first >>= fun a => second >>= fun b => pure (combine a b)).value? =
      first.value?.bind fun a => second.value?.bind fun b => some (combine a b) :=
  (value?_bind _ _).trans (Option.bind_congr fun _ _ => value?_bind _ _)

/-- A value of two steps comes from a value of the first, and the events of both are kept. -/
theorem exists_of_bind_eq_ok {first : Traced α} {next : α → Traced β} {value : β}
    (known : (first >>= next).outcome = .ok value) :
    ∃ between, first.outcome = .ok between ∧ (next between).outcome = .ok value ∧
      (first >>= next).events = first.events ++ (next between).events := by
  obtain ⟨events, outcome⟩ := first
  cases outcome with
  | error error => exact absurd known (by simp [outcome_bind, Except.bind])
  | ok between => exact ⟨between, rfl, known, rfl⟩

theorem mem_of_mem_onError {traced : Traced α} {failed : EvalError → Event} {event : Event}
    (mem : event ∈ (traced.onError failed).events) : event ∈ traced.events ∨ ∃ error, event = failed error := by
  unfold onError at mem
  split at mem
  · exact .inl mem
  · rcases List.mem_append.mp mem with before | last
    · exact .inl before
    · exact .inr ⟨_, List.mem_singleton.mp last⟩

theorem events_onError_of_ok {traced : Traced α} {value : α} (known : traced.outcome = .ok value)
    (event : EvalError → Event) : (traced.onError event).events = traced.events := by
  simp [onError, known]

end Traced

/-- A text without parentheses is evaluated as it is. -/
theorem reduceGroups_of_ungrouped (value : Text → Traced Bool) (depth : Nat) {text : Text} (plain : Ungrouped text) :
    reduceGroups value depth text = value text := by
  rw [reduceGroups_eq, innermostGroup?_of_ungrouped plain]

/-- A group that is found is evaluated, and then the text with its value in its place. -/
theorem outcome_reduceGroups_of_group (value : Text → Traced Bool) (depth : Nat) {text group : Text}
    (found : innermostGroup? text = .ok (some group)) :
    (reduceGroups value depth text).outcome =
      (value group).outcome.bind fun result => (reduceGroups value depth (substitute group result text)).outcome := by
  rw [reduceGroups_eq, found]
  simp only [Traced.outcome_bind]
  rfl

namespace Evaluator

theorem trace_of_isBlank (evaluator : Evaluator) {expression : Text} (blank : Text.IsBlank expression) :
    evaluator.trace expression = .fail .emptyInput := by
  rw [trace, if_pos blank]

theorem trace_of_not_isBlank (evaluator : Evaluator) {expression : Text} (notBlank : ¬ Text.IsBlank expression) :
    evaluator.trace expression =
      (reduce evaluator.config.comparison evaluator.config.maxDepth.toNat evaluator.config.maxDepth.toNat 1
        expression).onError (.failed expression) := by
  rw [trace, if_neg notBlank]

theorem evaluate_of_not_isBlank (evaluator : Evaluator) {expression : Text} (notBlank : ¬ Text.IsBlank expression) :
    evaluator.evaluate expression =
      (reduce evaluator.config.comparison evaluator.config.maxDepth.toNat evaluator.config.maxDepth.toNat 1
        expression).outcome := by
  rw [evaluate, trace_of_not_isBlank evaluator notBlank, Traced.outcome_onError]

theorem toNat_limit_pos {limit : UInt64} (positive : limit ≠ 0) : 0 < limit.toNat :=
  Nat.pos_of_ne_zero fun zero => positive (UInt64.toNat_inj.mp zero)

/-- A limit that is not refused leaves a level for the expression itself. -/
theorem exists_levels {evaluator : Evaluator} (positive : evaluator.config.maxDepth ≠ 0) :
    ∃ levels, evaluator.config.maxDepth.toNat = levels + 1 :=
  Nat.exists_eq_add_of_le' (toNat_limit_pos positive)

end Evaluator

end Verdict
