import Verdict.Evaluation

/-!
# What a split asks of its sides

The value of a split is known at once, from both sides as they stand, or it comes from the values of both sides, the
left one first. Which of the two it is does not depend on what is done one level deeper (`planned_splitValue`), so
whatever evaluates texts there meets the same texts in the same order.
-/
namespace Verdict

/-- The value of a side of a split: one level deeper, or as the truth value that it spells. -/
def sideValue (descend : Text → Traced Bool) (deeper : Bool) (text : Text) : Traced Bool :=
  if deeper then descend text else .ofExcept (Boolean.ofText text)

/-- The values of both sides, put together. -/
def sidesValue (descend : Text → Traced Bool) (split : Split) (left right : Bool) (combine : Bool → Bool → Bool) :
    Traced Bool := do
  let a ← sideValue descend left split.left
  let b ← sideValue descend right split.right
  return combine a b

/-- How the value of a split comes about, as it stands before anything is evaluated one level deeper: the value itself
    is known, or which of the sides are evaluated there and what is made of their values. -/
inductive Planned (mode : Comparison) (text : Text) (split : Split) (value : (Text → Traced Bool) → Traced Bool) :
    Prop where
  | atOnce (outcome : Except EvalError Bool)
    (errors : ∀ error, outcome = .error error →
      split.operator.isRelational = true ∧ relation text split = .error error ∨
        split.operator.isRelational = false ∧ Operand.equals mode text split.operator (Operand.ofText split.left)
          (Operand.ofText split.right) = .error error)
    (same : ∀ descend, value descend = .ofExcept outcome)
  | fromSides (truthful : split.operator.isRelational = false) (left right : Bool) (combine : Bool → Bool → Bool)
    (same : ∀ descend, value descend = sidesValue descend split left right combine)

/-- The right side is evaluated once the left one has a value. -/
theorem sidesValue_cases (descend : Text → Traced Bool) (split : Split) (left right : Bool)
    (combine : Bool → Bool → Bool) :
    let first := sideValue descend left split.left
    let second := sideValue descend right split.right
    (∃ error, first.outcome = .error error ∧
      sidesValue descend split left right combine = ⟨first.events, .error error⟩) ∨
    ∃ value, first.outcome = .ok value ∧
      sidesValue descend split left right combine =
        ⟨first.events ++ second.events, second.outcome.map (combine value)⟩ := by
  intro first second
  have shape : sidesValue descend split left right combine =
      first >>= fun a => second >>= fun b => pure (combine a b) := rfl
  rw [shape]
  obtain ⟨before, outcome⟩ := first
  cases outcome with
  | error error => exact .inl ⟨error, rfl, rfl⟩
  | ok value =>
    refine .inr ⟨value, rfl, ?_⟩
    obtain ⟨after, outcome⟩ := second
    cases outcome with
    | error error => rfl
    | ok other =>
      show Traced.mk (before ++ (after ++ [])) _ = _
      rw [List.append_nil]
      rfl

theorem Traced.ofExcept_bind {α β : Type} (outcome : Except EvalError α) (f : α → β) :
    (ofExcept outcome >>= fun value => pure (f value)) = ofExcept (outcome.map f) := by
  cases outcome <;> rfl

variable {mode : Comparison} {text : Text} {split : Split} {value : (Text → Traced Bool) → Traced Bool}

theorem planned_equality (truthful : split.operator.isRelational = false) :
    Planned mode text split fun descend => equality mode descend text split := by
  by_cases nested : (Operator.occursIn split.left || Operator.occursIn split.right) = true
  · apply Planned.fromSides truthful (Operator.occursIn split.left) (Operator.occursIn split.right) (· == ·)
    intro descend
    show equality mode descend text split = _
    rw [equality, if_pos nested]
    rfl
  · apply Planned.atOnce
    · intro error failed
      exact .inr ⟨truthful, failed⟩
    · intro descend
      show equality mode descend text split = _
      rw [equality, if_neg nested]

/-- The plan for a value, and what is made of the value, are a plan. -/
theorem Planned.map (planned : Planned mode text split value) (f : Bool → Bool) :
    Planned mode text split fun descend => value descend >>= fun result => pure (f result) := by
  cases planned with
  | atOnce outcome errors same =>
    apply Planned.atOnce (outcome.map f)
    · intro error failed
      cases outcome with
      | error other => exact errors error failed
      | ok result => simp [Except.map] at failed
    · intro descend
      show value descend >>= _ = _
      rw [same, Traced.ofExcept_bind]
  | fromSides truthful left right combine same =>
    apply Planned.fromSides truthful left right fun a b => f (combine a b)
    intro descend
    show value descend >>= _ = _
    simp only [same, sidesValue, bind_assoc, pure_bind]

theorem planned_splitValue (mode : Comparison) (text : Text) (split : Split) :
    Planned mode text split fun descend => splitValue mode descend text split := by
  obtain ⟨operator, left, right⟩ := split
  cases operator with
  | or => exact .fromSides rfl true true (· || ·) fun _ => rfl
  | and => exact .fromSides rfl true true (· && ·) fun _ => rfl
  | eq => exact planned_equality rfl
  | ne =>
    have equal : Planned mode text ⟨.ne, left, right⟩ fun descend => equality mode descend text ⟨.ne, left, right⟩ :=
      planned_equality rfl
    exact equal.map not
  | ge | le | gt | lt => exact .atOnce _ (fun _ failed => .inl ⟨rfl, failed⟩) fun _ => rfl

end Verdict
