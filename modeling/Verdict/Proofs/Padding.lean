import Verdict.Proofs.Evaluation
import Verdict.Proofs.Text.Trim

/-!
# White space around a text

A text without parentheses splits as it does without the white space around it. Its value is the same, and so is what
the evaluation reports; only the errors may show the white space.
-/
namespace Verdict

theorem Operator.black_symbol (op : Operator) : Text.Black op.symbol := by
  refine ⟨op.symbol_ne_nil, ?_⟩
  cases op <;> simp [symbol, Text.isWhitespace, Text.whitespaceRanges]

theorem Operator.occursIn_trim_iff (text : Text) : OccursIn (Text.trim text) ↔ OccursIn text := by
  simp only [OccursIn, (black_symbol _).occurs_trim_iff]

theorem Operator.occursIn_trim_eq_true_iff (text : Text) : occursIn (Text.trim text) = true ↔ OccursIn text := by
  rw [occursIn_iff, occursIn_trim_iff]

theorem Operator.ungrouped_symbol (op : Operator) : Ungrouped op.symbol := by
  cases op <;> decide

theorem ungrouped_append_iff {a b : Text} : Ungrouped (a ++ b) ↔ Ungrouped a ∧ Ungrouped b := by
  simp only [Ungrouped, List.mem_append, not_or]
  exact and_and_and_comm

theorem Ungrouped.trim {text : Text} (plain : Ungrouped text) : Ungrouped (Text.trim text) :=
  ⟨fun mem => plain.1 ((Text.trim_occurs text).subset mem), fun mem => plain.2 ((Text.trim_occurs text).subset mem)⟩

namespace Split

theorem at?_trim (text : Text) (op : Operator) : at? (Text.trim text) op = at? text op := by
  obtain ⟨before, after, left, right, whole⟩ := Text.exists_trim_eq text
  have cut := op.black_symbol.cut?_pad left right (Text.trim text)
  rw [← whole] at cut
  rw [at?, at?, cut]
  cases Text.cut? op.symbol (Text.trim text) with
  | none => rfl
  | some sides => simp [Text.trim_of_isBlank_left left, Text.trim_of_isBlank_right right]

theorem first?_trim (text : Text) : first? (Text.trim text) = first? text := by
  rw [first?, first?, funext (at?_trim text)]

end Split

theorem Boolean.ofText_trim (text : Text) : ofText (Text.trim text) = ofText text := by
  rw [ofText, ofText, Text.trim_trim]

/-! ## Evaluations that differ in their errors -/

/-- The same events, and the same value if there is one. -/
structure Traced.Agrees {α : Type} (first second : Traced α) : Prop where
  events : first.events = second.events
  value : ∀ value, first.outcome = .ok value ↔ second.outcome = .ok value

namespace Traced.Agrees

variable {α β : Type}

theorem refl (traced : Traced α) : traced.Agrees traced :=
  ⟨rfl, fun _ => Iff.rfl⟩

theorem ofExcept {first second : Except EvalError α} (same : ∀ value, first = .ok value ↔ second = .ok value) :
    (Traced.ofExcept first).Agrees (Traced.ofExcept second) :=
  ⟨rfl, same⟩

/-- Evaluations that agree may be followed by the same. -/
theorem bind {first second : Traced α} (same : first.Agrees second) (next : α → Traced β) :
    (first >>= next).Agrees (second >>= next) := by
  obtain ⟨events, outcome⟩ := first
  obtain ⟨events', outcome'⟩ := second
  obtain rfl : events = events' := same.events
  have values : ∀ value, outcome = .ok value ↔ outcome' = .ok value := same.value
  cases outcome with
  | ok value =>
    obtain rfl : outcome' = .ok value := (values value).mp rfl
    exact refl _
  | error error =>
    cases outcome' with
    | ok value => exact absurd ((values value).mpr rfl) (by simp)
    | error error' =>
      refine ⟨rfl, fun value => ?_⟩
      show Except.error error = .ok value ↔ Except.error error' = .ok value
      simp

/-- The same may be followed by evaluations that agree. -/
theorem bind_left (first : Traced α) {next next' : α → Traced β} (same : ∀ value, (next value).Agrees (next' value)) :
    (first >>= next).Agrees (first >>= next') := by
  obtain ⟨events, outcome⟩ := first
  cases outcome with
  | error error => exact refl _
  | ok value => exact ⟨congrArg (events ++ ·) (same value).events, (same value).value⟩

end Traced.Agrees

/-- The whole expression is only shown in errors. -/
theorem Operand.equals_eq_ok_iff (mode : Comparison) (expression expression' : Text) (operator : Operator)
    (left right : Operand) (value : Bool) :
    equals mode expression operator left right = .ok value ↔
      equals mode expression' operator left right = .ok value := by
  cases left <;> cases right <;> simp [equals]

theorem relation_eq_ok_iff (text text' : Text) (split : Split) (value : Bool) :
    relation text split = .ok value ↔ relation text' split = .ok value := by
  unfold relation
  split <;> simp

theorem equality_agrees (mode : Comparison) (descend : Text → Traced Bool) (text text' : Text) (split : Split) :
    (equality mode descend text split).Agrees (equality mode descend text' split) := by
  unfold equality
  split
  · exact .refl _
  · exact .ofExcept (Operand.equals_eq_ok_iff mode text text' split.operator _ _)

theorem splitValue_agrees (mode : Comparison) (descend : Text → Traced Bool) (text text' : Text) (split : Split) :
    (splitValue mode descend text split).Agrees (splitValue mode descend text' split) := by
  unfold splitValue
  cases split.operator with
  | or | and => exact .refl _
  | eq => exact equality_agrees mode descend text text' split
  | ne => exact (equality_agrees mode descend text text' split).bind _
  | ge | le | gt | lt => exact .ofExcept (relation_eq_ok_iff text text' split)

theorem ungrouped_trim (mode : Comparison) (depth : Nat) (descend : Text → Traced Bool) (text : Text) :
    (ungrouped mode depth descend (Text.trim text)).Agrees (ungrouped mode depth descend text) := by
  unfold ungrouped
  rw [Split.first?_trim]
  cases Split.first? text with
  | none => rw [Boolean.ofText_trim]; exact .refl _
  | some split => exact .bind_left _ fun _ => splitValue_agrees mode descend _ text split

theorem reduce_trim (mode : Comparison) (limit levels depth : Nat) {text : Text} (plain : Ungrouped text) :
    (reduce mode limit levels depth (Text.trim text)).Agrees (reduce mode limit levels depth text) := by
  cases levels with
  | zero => exact ⟨rfl, fun value => by simp [reduce]⟩
  | succ levels =>
    rw [reduce, reduce, reduceGroups_of_ungrouped _ _ plain, reduceGroups_of_ungrouped _ _ plain.trim]
    exact ungrouped_trim mode depth _ text

end Verdict
