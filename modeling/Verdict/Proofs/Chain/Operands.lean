import Verdict.Chain
import Verdict.Proofs.Operands

/-!
# Operands of operators on truth values

A text that stands between operators on truth values is a truth value or an order between two numbers, with white
space anywhere but in words and symbols. It has its value however the evaluation gets to it: as a text of its own
(`outcome_ungrouped`), or as an operand without operators (`ofText_of_not_occursIn`).
-/
namespace Verdict

/-- The text is an operand with this value. -/
inductive Reads : Text → Bool → Prop where
  | truth {text : Text} {value : Bool} : Boolean.ofText text = .ok value → Reads text value
  | order {left right : Text} {op : Operator} {a b : Decimal} :
    op.isRelational = true → Decimal.ofText? left = some a → Decimal.ofText? right = some b →
      Reads (left ++ op.symbol ++ right) (op.holds a.value b.value)

namespace Reads

variable {text : Text} {value : Bool}

theorem ungrouped (reads : Reads text value) : Ungrouped text := by
  cases reads with
  | truth read =>
    obtain ⟨spelling, valid, shape, _⟩ := Boolean.ofText_eq_ok_iff.mp read
    refine (Unmarked.of_trim ?_).ungrouped
    rw [shape]
    exact Boolean.Spelling.unmarked_print valid
  | @order left right op a b relational first second =>
    have one : Ungrouped left := (Unmarked.of_trim (Decimal.unmarked (by simp [first]))).ungrouped
    have two : Ungrouped right := (Unmarked.of_trim (Decimal.unmarked (by simp [second]))).ungrouped
    exact ungrouped_append_iff.mpr ⟨ungrouped_append_iff.mpr ⟨one, op.ungrouped_symbol⟩, two⟩

/-- Only an operator between numbers may stand in an operand. -/
theorem side (reads : Reads text value) {ops : List Operator} (logical : ∀ op ∈ ops, op.isRelational = false) :
    Split.Side ops text := by
  cases reads with
  | truth read => exact (IsLeaf.of_truth read).side ops
  | @order left right op a b relational first second =>
    have one := (IsLeaf.of_number first).side ops
    have two := (IsLeaf.of_number second).side ops
    have shape : left ++ op.symbol ++ right = Operator.join left [(op, right)] := by simp [Operator.join]
    rw [shape]
    refine ⟨one.guarded.join (by simp [two.guarded]), Split.not_isBlank_join one.notBlank _, fun other mem => ?_⟩
    have apart : ¬ other.symbol <:+: op.symbol := by
      have other_logical := logical other mem
      cases op <;> cases other <;> revert relational other_logical <;> decide
    exact Operator.not_occurs_join ⟨one.guarded, one.free other mem⟩ (by simp [apart, two.guarded, two.free other mem])

/-- An operand without operators is a truth value. -/
theorem ofText_of_not_occursIn (reads : Reads text value) (free : ¬ Operator.OccursIn text) :
    Boolean.ofText text = .ok value := by
  cases reads with
  | truth read => exact read
  | @order left right op a b => exact absurd ⟨op, left, right, rfl⟩ free

theorem outcome_ungrouped (reads : Reads text value) (mode : Comparison) (depth : Nat)
    (descend : Text → Traced Bool) : (Verdict.ungrouped mode depth descend text).outcome = .ok value := by
  cases reads with
  | truth read =>
    have unsplit := Split.first?_of_not_occursIn (IsLeaf.of_truth read).free
    rw [outcome_ungrouped_of_none mode depth descend unsplit, read]
  | @order left right op a b relational first second =>
    have numeric : op.isLogical = false := by cases op <;> revert relational <;> decide
    rw [outcome_ungrouped_of_numbers mode depth descend numeric first second, Decimal.admits_compare]

end Reads

/-- An operand of a chain is read where it stands between white space. -/
theorem Link.reads_print {link : Link} (valid : link.IsValid) {before after : Text} (left : Text.IsBlank before)
    (right : Text.IsBlank after) : Reads (before ++ link.print ++ after) link.value := by
  cases link with
  | truth spelling =>
    refine .truth (Boolean.ofText_eq_ok_iff.mpr ⟨spelling, valid, ?_, rfl⟩)
    rw [Text.trim_of_isBlank_right right, Text.trim_of_isBlank_left left]
    exact Boolean.Spelling.trim_print valid
  | order a op b =>
    obtain ⟨relational, first, second⟩ := valid
    obtain ⟨x, first⟩ := Option.isSome_iff_exists.mp first
    obtain ⟨y, second⟩ := Option.isSome_iff_exists.mp second
    have reads := Reads.order relational ((Decimal.ofText?_pad left Text.isBlank_nil a).trans first)
      ((Decimal.ofText?_pad Text.isBlank_nil right b).trans second)
    simpa [print, value, first, second] using reads

/-- A word is read as the truth value that it stands for. -/
theorem reads_word {before after : Text} (left : Text.IsBlank before) (right : Text.IsBlank after) (value : Bool) :
    Reads (before ++ Boolean.word value ++ after) value := by
  have valid : (Link.truth ⟨[], Boolean.word value⟩).IsValid := by cases value <;> decide
  have reads := Link.reads_print valid left right
  cases value <;> exact reads

end Verdict
