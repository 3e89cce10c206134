import Verdict.Evaluation
import Verdict.Proofs.Boolean
import Verdict.Proofs.Group.Innermost

/-!
# The errors of single steps

What each step of an evaluation may fail with, and what is known of its text then. An error of the search for groups is
about parentheses; any error of a text without groups is about its operands, unless the limit is exceeded.
-/
namespace Verdict

/-! ## Kinds of errors -/

/-- The error is about parentheses. -/
def EvalError.IsGrouping : EvalError → Prop
  | .unbalancedGroup .. | .emptyGroup .. => True
  | _ => False

/-- The error is about the limit on the depth. -/
def EvalError.IsLimit : EvalError → Prop
  | .limitExceeded .. => True
  | _ => False

/-- The error is about what an operand spells, or what it is compared with. -/
def EvalError.IsOperand : EvalError → Prop
  | .emptyValue .. | .invalidBoolean .. | .typeMismatch .. | .numericConversion .. => True
  | _ => False

theorem EvalError.IsGrouping.not_isLimit {e : EvalError} (grouping : e.IsGrouping) : ¬ e.IsLimit := by
  cases e <;> simp_all [IsGrouping, IsLimit]

theorem EvalError.IsOperand.not_isGrouping {e : EvalError} (operand : e.IsOperand) : ¬ e.IsGrouping := by
  cases e <;> simp_all [IsOperand, IsGrouping]

theorem EvalError.IsOperand.not_isLimit {e : EvalError} (operand : e.IsOperand) : ¬ e.IsLimit := by
  cases e <;> simp_all [IsOperand, IsLimit]

/-! ## Groups -/

theorem isGrouping_emptyPairError (text back : Text) : (emptyPairError text back).IsGrouping := by
  unfold emptyPairError
  dsimp only
  split <;> trivial

theorem isGrouping_of_search {text : Text} {e : EvalError} (failed : innermostGroup? text = .error e) :
    e.IsGrouping := by
  have here := search text
  rw [failed] at here
  cases here with
  | opened _ | closed _ | early _ _ => trivial
  | pair _ _ => exact isGrouping_emptyPairError _ _

/-! ## Operands -/

/-- The kinds of two operands of which one is a string or a number, and the other is something else. -/
def OperandKind.Mismatched (left right : OperandKind) : Prop :=
  left = .unknown ∧ (right = .string ∨ right = .decimal) ∨ right = .unknown ∧ (left = .string ∨ left = .decimal)

/-- An error of two steps is an error of the first one, or of the second one after it. -/
theorem error_of_bind {α β : Type} {first : Except EvalError α} {next : α → Except EvalError β} {e : EvalError}
    (failed : (first >>= next) = .error e) :
    first = .error e ∨ ∃ value, first = .ok value ∧ next value = .error e := by
  cases first with
  | error other => exact .inl (congrArg Except.error (Except.error.inj failed))
  | ok value => exact .inr ⟨value, rfl, failed⟩

/-- An error of two steps whose values are put together is an error of one of them. -/
theorem error_of_both {α β γ : Type} {first : Except EvalError α} {second : Except EvalError β} {combine : α → β → γ}
    {e : EvalError} (failed : (do let a ← first; let b ← second; return combine a b) = Except.error e) :
    first = .error e ∨ second = .error e := by
  rcases error_of_bind failed with one | ⟨a, _, rest⟩
  · exact .inl one
  · rcases error_of_bind rest with two | ⟨b, _, combined⟩
    · exact .inr two
    · exact absurd combined (by simp [pure, Except.pure])

/-- Either nothing follows the negations of a text, or what follows is no word. -/
theorem Boolean.ofText_eq_error {text : Text} {e : EvalError} (failed : ofText text = .error e) :
    ∃ count front rest, Negations count front ∧ Text.trim text = front ++ rest ∧ Settled count rest ∧
      (rest = [] ∧ e = .emptyValue (Text.trim text) ∨ rest ≠ [] ∧ ofWord? rest = none ∧ e = .invalidBoolean rest) := by
  cases counted : negations 0 (Text.trim text) with
  | mk count rest =>
    obtain ⟨front, negated, whole, settled⟩ := negations_eq_iff.mp counted
    refine ⟨count, front, rest, negated, whole, settled, ?_⟩
    simp only [ofText, counted] at failed
    split at failed
    · rename_i nothing
      exact .inl ⟨nothing, (Except.error.inj failed).symm⟩
    · rename_i something
      split at failed
      · simp at failed
      · rename_i other
        exact .inr ⟨something, other, (Except.error.inj failed).symm⟩

theorem number_eq_error {text : Text} {e : EvalError} (failed : number text = .error e) :
    Decimal.ofText? text = none ∧ e = .numericConversion text := by
  unfold number at failed
  split at failed
  · simp at failed
  · rename_i unread
    exact ⟨unread, (Except.error.inj failed).symm⟩

/-- Either an operator stands in an operand, or there is none and an operand is no number. -/
theorem relation_eq_error {text : Text} {split : Split} {e : EvalError} (failed : relation text split = .error e) :
    e = .typeMismatch text split.operator .bool .unknown ∨
      ∃ side, (side = split.left ∨ side = split.right) ∧ ¬ Operator.OccursIn side ∧ Decimal.ofText? side = none ∧
        e = .numericConversion side := by
  unfold relation at failed
  split at failed
  · exact .inl (Except.error.inj failed).symm
  · rename_i free
    simp only [Bool.or_eq_true, not_or, Operator.occursIn_iff] at free
    rcases error_of_both failed with left | right
    · exact .inr ⟨split.left, .inl rfl, free.1, number_eq_error left⟩
    · exact .inr ⟨split.right, .inr rfl, free.2, number_eq_error right⟩

/-- Either the operands are of different kinds, or both are to be truth values and one is not. -/
theorem Operand.equals_eq_error {mode : Comparison} {expression : Text} {op : Operator} {left right : Operand}
    {e : EvalError} (failed : equals mode expression op left right = .error e) :
    (∃ a b, OperandKind.Mismatched a b ∧ e = .typeMismatch expression op a b) ∨
      ∃ text, (left = .bare text ∨ right = .bare text) ∧ Boolean.ofText text = .error e := by
  -- The operand that asks for its own kind has it, and the other one has not.
  have mismatch : ∀ {a b : OperandKind}, OperandKind.Mismatched a b →
      Except.error (.typeMismatch expression op a b) = (Except.error e : Except EvalError Bool) →
      ∃ a b, OperandKind.Mismatched a b ∧ e = .typeMismatch expression op a b :=
    fun mismatched same => ⟨_, _, mismatched, (Except.error.inj same).symm⟩
  cases left with
  | quoted a =>
    cases right with
    | quoted b => simp [equals] at failed
    | decimal b => exact .inl (mismatch (.inr ⟨rfl, .inl rfl⟩) failed)
    | bare b => exact .inl (mismatch (.inr ⟨rfl, .inl rfl⟩) failed)
  | decimal a =>
    cases right with
    | quoted b => exact .inl (mismatch (.inl ⟨rfl, .inl rfl⟩) failed)
    | decimal b => simp [equals] at failed
    | bare b => exact .inl (mismatch (.inr ⟨rfl, .inr rfl⟩) failed)
  | bare a =>
    cases right with
    | quoted b => exact .inl (mismatch (.inl ⟨rfl, .inl rfl⟩) failed)
    | decimal b => exact .inl (mismatch (.inl ⟨rfl, .inr rfl⟩) failed)
    | bare b =>
      rcases error_of_both failed with first | second
      · exact .inr ⟨a, .inl rfl, first⟩
      · exact .inr ⟨b, .inr rfl, second⟩

theorem Boolean.isOperand_of_ofText {text : Text} {e : EvalError} (failed : ofText text = .error e) :
    e.IsOperand := by
  obtain ⟨_, _, _, _, _, _, ⟨_, rfl⟩ | ⟨_, _, rfl⟩⟩ := ofText_eq_error failed
  · trivial
  · trivial

theorem isOperand_of_relation {text : Text} {split : Split} {e : EvalError} (failed : relation text split = .error e) :
    e.IsOperand := by
  rcases relation_eq_error failed with rfl | ⟨_, _, _, _, rfl⟩
  · trivial
  · trivial

theorem isOperand_of_equals {mode : Comparison} {text : Text} {op : Operator} {left right : Operand} {e : EvalError}
    (failed : Operand.equals mode text op left right = .error e) : e.IsOperand := by
  rcases Operand.equals_eq_error failed with ⟨_, _, _, rfl⟩ | ⟨_, _, truth⟩
  · trivial
  · exact Boolean.isOperand_of_ofText truth

end Verdict
