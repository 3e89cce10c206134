import Verdict.Proofs.Literals

/-!
# Operators between literals

A literal is taken for what it is when an operator compares it with another one: the kinds differ in how a literal
ends. Where two literals stand on both sides of an operator, the text has the value of that comparison.
-/
namespace Verdict

namespace Operand

variable {text : Text}

/-- A truth value ends with a letter. -/
theorem ofText_of_truth {value : Bool} (read : Boolean.ofText text = .ok value) :
    ofText (Text.trim text) = .bare (Text.trim text) := by
  obtain ⟨spelling, valid, shape, _⟩ := Boolean.ofText_eq_ok_iff.mp read
  have letter := Boolean.Spelling.isAlpha_of_getLast?_print valid
  rw [← shape] at letter
  rcases ofText_cases (Text.trim text) with ⟨quoted, _⟩ | ⟨number, known, _⟩ | bare
  · simpa using letter _ quoted.2
  · rw [Decimal.ofText?_trim] at known
    have isSome : (Decimal.ofText? text).isSome = true := by simp [known]
    obtain ⟨nonempty, digits⟩ := Decimal.isDigit_of_getLast?_trim isSome
    obtain ⟨c, last⟩ := Option.isSome_iff_exists.mp (List.getLast?_isSome.mpr nonempty)
    have digit := digits c last
    simp [not_isDigit_of_isAlpha (letter c last)] at digit
  · exact bare

/-- A number ends with a digit. -/
theorem ofText_of_number {value : Decimal} (read : Decimal.ofText? text = some value) :
    ofText (Text.trim text) = .decimal value := by
  have isSome : (Decimal.ofText? text).isSome = true := by simp [read]
  have digits := (Decimal.isDigit_of_getLast?_trim isSome).2
  have unquoted : ¬ IsQuoted (Text.trim text) := by
    intro quoted
    simpa using digits _ quoted.2
  rw [ofText, if_neg unquoted, Decimal.ofText?_trim, read]

end Operand

section

variable (mode : Comparison) (depth : Nat) (descend : Text → Traced Bool) {left right : Text} {op : Operator}

theorem relation_of_numbers (text : Text) {a b : Decimal} (first : Decimal.ofText? left = some a)
    (second : Decimal.ofText? right = some b) :
    relation text ⟨op, Text.trim left, Text.trim right⟩ = .ok (op.admits (a.compare b)) := by
  have free : ∀ {side : Text} {value : Decimal}, Decimal.ofText? side = some value →
      Operator.occursIn (Text.trim side) = false ∧ number (Text.trim side) = .ok value := by
    intro side value read
    refine ⟨Bool.eq_false_iff.mpr fun inside => ?_, by rw [number, Decimal.ofText?_trim, read]⟩
    exact (IsLeaf.of_number read).free ((Operator.occursIn_trim_eq_true_iff side).mp inside)
  obtain ⟨noneLeft, numberLeft⟩ := free first
  obtain ⟨noneRight, numberRight⟩ := free second
  simp only [relation, noneLeft, noneRight, numberLeft, numberRight, Bool.or_false, Bool.false_eq_true, if_false]
  rfl

/-- Operands without operators are compared as what they are. -/
theorem outcome_equality_of_leaves (text : Text) (one : IsLeaf left) (two : IsLeaf right) :
    (equality mode descend text ⟨op, Text.trim left, Text.trim right⟩).outcome =
      Operand.equals mode text op (Operand.ofText (Text.trim left)) (Operand.ofText (Text.trim right)) := by
  have free : ∀ {side : Text}, IsLeaf side → ¬ Operator.occursIn (Text.trim side) = true := by
    intro side leaf inside
    exact leaf.free ((Operator.occursIn_trim_eq_true_iff side).mp inside)
  rw [equality, if_neg]
  · rfl
  · simp only [Bool.or_eq_true, not_or]
    exact ⟨free one, free two⟩

theorem outcome_splitValue_eq (text : Text) {value : Bool}
    (equal : (equality mode descend text ⟨.eq, left, right⟩).outcome = .ok value) :
    (splitValue mode descend text ⟨.eq, left, right⟩).outcome = .ok value :=
  equal

theorem outcome_splitValue_ne (text : Text) {value : Bool}
    (equal : (equality mode descend text ⟨.ne, left, right⟩).outcome = .ok value) :
    (splitValue mode descend text ⟨.ne, left, right⟩).outcome = .ok (!value) := by
  simp only [splitValue, Traced.outcome_bind, equal]
  rfl

/-- Two numbers with an operator between them have the value that the operator gives them. -/
theorem outcome_ungrouped_of_numbers (numeric : op.isLogical = false) {a b : Decimal}
    (first : Decimal.ofText? left = some a) (second : Decimal.ofText? right = some b) :
    (ungrouped mode depth descend (left ++ op.symbol ++ right)).outcome = .ok (op.admits (a.compare b)) := by
  have one := IsLeaf.of_number first
  have two := IsLeaf.of_number second
  have equal : ∀ op text, (equality mode descend text ⟨op, Text.trim left, Text.trim right⟩).outcome =
      .ok (a.compare b).isEq := by
    intro op text
    rw [outcome_equality_of_leaves mode descend text one two, Operand.ofText_of_number first,
      Operand.ofText_of_number second]
    rfl
  rw [outcome_ungrouped_of_split mode depth descend (one.first?_eq_some two op)]
  cases op with
  | or | and => simp [Operator.isLogical] at numeric
  | eq => exact outcome_splitValue_eq mode descend _ (equal .eq _)
  | ne =>
    rw [outcome_splitValue_ne mode descend _ (equal .ne _)]
    cases a.compare b <;> rfl
  | ge | le | gt | lt => exact relation_of_numbers _ first second

end

end Verdict
