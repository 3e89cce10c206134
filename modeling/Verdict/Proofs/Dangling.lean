import Verdict.Proofs.Errors
import Verdict.Proofs.Literals
import Verdict.Proofs.OnePass
import Verdict.Proofs.Sides

/-!
# Operators without a second operand

A text does not split at an operator that stands at one of its ends. Neither does it split at another one, unless the
operator begins with the other one: then the rest of its symbol is the operand on the right (`at?_behind`). So a
dangling operator makes the text a truth value that is spelled wrong, except that `>=` and `<=` at the end make it a
comparison with `=`.
-/
namespace Verdict

namespace Operator

theorem space_not_mem_symbol (op : Operator) : ' ' ∉ op.symbol := by
  cases op <;> decide

theorem symbol_injective {op other : Operator} (same : op.symbol = other.symbol) : op = other := by
  revert same
  cases op <;> cases other <;> decide

/-- The symbols that begin with other symbols are those of two operators between numbers. -/
theorem eq_append_iff {op : Operator} :
    (∃ other : Operator, op.symbol = other.symbol ++ ['=']) ↔ op = .ge ∨ op = .le := by
  constructor
  · rintro ⟨other, longer⟩
    revert longer
    cases op <;> cases other <;> decide
  · rintro (rfl | rfl)
    · exact ⟨.gt, rfl⟩
    · exact ⟨.lt, rfl⟩

theorem isRelational_of_longer {op other : Operator} (longer : op.symbol = other.symbol ++ ['=']) :
    other.isRelational = true := by
  revert longer
  cases op <;> cases other <;> decide

/-- An operator in the symbol of another one stands at its front, and an equals sign is what follows. -/
theorem eq_or_append_of_occurs {op other : Operator} (inside : other.symbol <:+: op.symbol) :
    other = op ∨ op.symbol = other.symbol ++ ['='] := by
  revert inside
  cases op <;> cases other <;> decide

theorem prefix_of_occurs {op other : Operator} (inside : other.symbol <:+: op.symbol) :
    other.symbol <+: op.symbol := by
  rcases eq_or_append_of_occurs inside with rfl | longer
  · exact List.prefix_rfl
  · exact ⟨['='], longer.symm⟩

end Operator

/-- A text with an operator in it is no truth value. What is wrong with it stands behind the negations. -/
theorem Boolean.ofText_of_occursIn {text : Text} (occurs : Operator.OccursIn text) :
    ofText text = .error (.invalidBoolean (negations 0 (Text.trim text)).2) := by
  have marked : ¬ Unmarked text := fun unmarked => unmarked.not_occursIn occurs
  cases read : ofText text with
  | ok value => exact absurd (unmarked_of_ofText read) marked
  | error e =>
    obtain ⟨count, front, rest, negated, whole, settled, ⟨rfl, _⟩ | ⟨_, _, rfl⟩⟩ := ofText_eq_error read
    · rw [List.append_nil] at whole
      exact absurd (Unmarked.of_trim (whole ▸ negated.unmarked)) marked
    · rw [negations_eq_iff.mpr ⟨front, negated, whole, settled⟩]

namespace Split

/-! ## Where a text with a dangling operator splits -/

variable {text : Text} {op other : Operator}

theorem at?_of_prefix (front : op.symbol <+: text) : at? text op = none := by
  obtain ⟨rest, rfl⟩ := front
  rw [at?, Text.cut?_pattern]
  rfl

variable (free : ¬ Operator.OccursIn text)
include free

/-- No operator reaches across the space in front of the text. -/
theorem first?_before (op : Operator) : first? (op.symbol ++ ' ' :: text) = none := by
  refine List.findSome?_eq_none_iff.mpr fun other _ => ?_
  by_cases inside : other.symbol <:+: op.symbol ++ ' ' :: text
  · rcases Text.occurs_cons_of_not_mem other.space_not_mem_symbol inside with within | behind
    · exact at?_of_prefix ((Operator.prefix_of_occurs within).trans (List.prefix_append _ _))
    · exact absurd ⟨other, behind⟩ free
  · exact at?_of_not_occurs inside

/-- What is left of a symbol behind an operator is the right side. -/
theorem at?_behind {rest : Text} (shape : op.symbol = other.symbol ++ rest) :
    at? (text ++ ' ' :: op.symbol) other =
      if Text.trim text = [] ∨ Text.trim rest = [] then none else some ⟨other, Text.trim text, Text.trim rest⟩ := by
  have cut : Text.cut? other.symbol (text ++ ([' '] ++ (other.symbol ++ rest))) = some (text ++ [' '], rest) := by
    -- No copy starts in the text, since none reaches the space.
    have absent : ¬ Text.StartsIn other.symbol text ([' '] ++ (other.symbol ++ rest)) :=
      Text.not_startsIn_cons other.space_not_mem_symbol fun inside => free ⟨other, inside⟩
    rw [Text.cut?_append absent, Text.cut?_append_pattern (other.black_symbol.not_startsIn_blank Text.isBlank_space _)]
    rfl
  rw [← List.singleton_append, shape, at?, cut]
  simp only [Text.trim_of_isBlank_right Text.isBlank_space]

theorem at?_behind_self (op : Operator) : at? (text ++ ' ' :: op.symbol) op = none := by
  rw [at?_behind free (List.append_nil op.symbol).symm]
  simp [Text.trim_eq_nil_iff, Text.IsBlank]

/-- The operators in the symbol are the only ones that may be there. -/
theorem at?_behind_of_not_longer (longer : op.symbol ≠ other.symbol ++ ['=']) :
    at? (text ++ ' ' :: op.symbol) other = none := by
  by_cases inside : other.symbol <:+: text ++ ' ' :: op.symbol
  · rcases Text.occurs_cons_of_not_mem other.space_not_mem_symbol inside with front | within
    · exact absurd ⟨other, front⟩ free
    · rcases Operator.eq_or_append_of_occurs within with rfl | shape
      · exact at?_behind_self free other
      · exact absurd shape longer
  · exact at?_of_not_occurs inside

theorem first?_behind (alone : ∀ other : Operator, op.symbol ≠ other.symbol ++ ['=']) :
    first? (text ++ ' ' :: op.symbol) = none :=
  List.findSome?_eq_none_iff.mpr fun other _ => at?_behind_of_not_longer free (alone other)

theorem first?_behind_of_longer (notBlank : ¬ Text.IsBlank text) (longer : op.symbol = other.symbol ++ ['=']) :
    first? (text ++ ' ' :: op.symbol) = some ⟨other, Text.trim text, ['=']⟩ := by
  refine first?_eq_some_of_unique ?_ fun third different => at?_behind_of_not_longer free fun shape => ?_
  · rw [at?_behind free longer, if_neg]
    · rfl
    · rw [Text.trim_eq_nil_iff]
      exact not_or.mpr ⟨notBlank, by decide⟩
  · -- A third operator would have the same symbol.
    exact different (Operator.symbol_injective (List.append_cancel_right (shape.symm.trans longer)))

end Split

/-- The equals sign is no number, so the comparison fails, at the text if that is no number either. -/
theorem relation_equals_sign {text : Text} (free : ¬ Operator.OccursIn text) (whole : Text) (op : Operator) :
    relation whole ⟨op, Text.trim text, ['=']⟩ =
      .error (.numericConversion (if (Decimal.ofText? text).isSome then ['='] else Text.trim text)) := by
  have left : Operator.occursIn (Text.trim text) = false :=
    Bool.eq_false_iff.mpr fun inside => free ((Operator.occursIn_trim_eq_true_iff text).mp inside)
  have right : Operator.occursIn ['='] = false := by decide
  have sign : Decimal.ofText? ['='] = none := by decide
  simp only [relation, number, left, right, sign, Decimal.ofText?_trim]
  cases Decimal.ofText? text <;> rfl

namespace Evaluator

section

variable (evaluator : Evaluator) (positive : evaluator.config.maxDepth ≠ 0) {text : Text} (plain : Ungrouped text)
include positive plain

/-- A text that does not split at the operators in it is no truth value. -/
theorem evaluate_of_not_split (occurs : Operator.OccursIn text) (unsplit : Split.first? text = none) :
    evaluator.evaluate text = .error (.invalidBoolean (Boolean.negations 0 (Text.trim text)).2) := by
  have notBlank : ¬ Text.IsBlank text := fun blank => blank.unmarked.not_occursIn occurs
  rw [evaluate_of_ungrouped evaluator positive plain notBlank, ungroupedValue, outcome_ungrouped_of_none _ _ _ unsplit,
    Boolean.ofText_of_occursIn occurs]

theorem evaluate_of_relational {split : Split} (found : Split.first? text = some split)
    (relational : split.operator.isRelational = true) : evaluator.evaluate text = relation text split := by
  have notBlank : ¬ Text.IsBlank text := fun blank =>
    blank.unmarked.not_occursIn ⟨split.operator, Split.symbol_occurs found⟩
  rw [evaluate_of_ungrouped evaluator positive plain notBlank, ungroupedValue, outcome_ungrouped_of_split _ _ _ found,
    splitValue]
  cases shape : split.operator with
  | or | and | ne | eq => simp [shape, Operator.isRelational] at relational
  | ge | le | gt | lt => rfl

end

/-- With an operator in front of it, a text without operators is no truth value, and neither is it with an operator
    behind it other than `>=` and `<=`. Behind the text these two make a comparison with `=`, and it fails as the text
    is no number, or else as `=` is none. -/
theorem evaluate_eq_error_of_dangling (evaluator : Evaluator) (positive : evaluator.config.maxDepth ≠ 0) {text : Text}
    (notBlank : ¬ Text.IsBlank text) (plain : Ungrouped text) (free : ¬ Operator.OccursIn text) (op : Operator) :
    let before := op.symbol ++ ' ' :: text
    let behind := text ++ ' ' :: op.symbol
    evaluator.evaluate before = .error (.invalidBoolean (Boolean.negations 0 (Text.trim before)).2) ∧
      (op ≠ .ge → op ≠ .le →
        evaluator.evaluate behind = .error (.invalidBoolean (Boolean.negations 0 (Text.trim behind)).2)) ∧
      (op = .ge ∨ op = .le →
        evaluator.evaluate behind =
          .error (.numericConversion (if (Decimal.ofText? text).isSome then ['='] else Text.trim text))) := by
  intro before behind
  have space : Ungrouped [' '] := by decide
  have plainBefore : Ungrouped before :=
    ungrouped_append_iff.mpr ⟨op.ungrouped_symbol, ungrouped_append_iff.mpr ⟨space, plain⟩⟩
  have plainBehind : Ungrouped behind :=
    ungrouped_append_iff.mpr ⟨plain, ungrouped_append_iff.mpr ⟨space, op.ungrouped_symbol⟩⟩
  refine ⟨?_, fun notGe notLe => ?_, fun angle => ?_⟩
  · have occurs : Operator.OccursIn before := ⟨op, (List.prefix_append _ _).isInfix⟩
    exact evaluate_of_not_split evaluator positive plainBefore occurs (Split.first?_before free op)
  · have occurs : Operator.OccursIn behind := ⟨op, ((List.suffix_cons _ _).trans (List.suffix_append _ _)).isInfix⟩
    have alone : ∀ other : Operator, op.symbol ≠ other.symbol ++ ['='] := fun other longer =>
      (Operator.eq_append_iff.mp ⟨other, longer⟩).elim notGe notLe
    exact evaluate_of_not_split evaluator positive plainBehind occurs (Split.first?_behind free alone)
  · obtain ⟨other, longer⟩ := Operator.eq_append_iff.mpr angle
    rw [evaluate_of_relational evaluator positive plainBehind (Split.first?_behind_of_longer free notBlank longer)
      (Operator.isRelational_of_longer longer)]
    exact relation_equals_sign free behind other

/-- A negation in front of the text goes with the truth value, and so does the one in `!=`. -/
theorem evaluate_eq_error_of_dangling_negated :
    (default : Evaluator).evaluate "!= !x".toList = .error (.invalidBoolean "= !x".toList) ∧
      (default : Evaluator).evaluate "!x !=".toList = .error (.invalidBoolean "x !=".toList) ∧
      (default : Evaluator).evaluate "!x <=".toList = .error (.numericConversion "!x".toList) := by
  have notBlank : ¬ Text.IsBlank "!x".toList := by decide
  have free : ¬ Operator.OccursIn "!x".toList := by
    rw [← Operator.occursIn_iff]
    decide
  obtain ⟨before, behind, _⟩ := evaluate_eq_error_of_dangling default (by decide) notBlank (by decide) free .ne
  obtain ⟨_, _, angle⟩ := evaluate_eq_error_of_dangling default (by decide) notBlank (by decide) free .le
  exact ⟨before, behind (by decide) (by decide), angle (.inr rfl)⟩

/-- A number does not become a truth value that is spelled wrong when `>=` follows it. -/
theorem evaluate_ge_behind_number :
    let number := ['5']
    let outcome := (default : Evaluator).evaluate (number ++ ' ' :: Operator.ge.symbol)
    (default : Evaluator).config.maxDepth ≠ 0 ∧ ¬ Text.IsBlank number ∧ Ungrouped number ∧
      ¬ Operator.OccursIn number ∧ outcome = .error (.numericConversion ['=']) ∧
      ∀ shown, outcome ≠ .error (.invalidBoolean shown) := by
  intro number outcome
  have free : ¬ Operator.OccursIn number := by
    rw [← Operator.occursIn_iff]
    decide
  have failed : outcome = .error (.numericConversion ['=']) := by decide +kernel
  refine ⟨by decide, by decide, by decide, free, failed, fun shown => ?_⟩
  rw [failed]
  simp

end Evaluator
end Verdict
