import Verdict.Proofs.Dangling
import Verdict.Proofs.Tree.Evaluation

/-!
# Equalities

An equality and the inequality of the same texts make one comparison between them: where one has a value the other has
the opposite one, and where one fails the other fails alike. Which of the texts stands on the left makes no difference
to the value.
-/
namespace Verdict

/-! ## An operator between two texts -/

/-- No operator reaches across the space on either side of the one that stands between two texts. -/
theorem Split.first?_printBinary {op : Operator} {looser tighter : List Operator}
    (order : Operator.precedence = looser ++ op :: tighter) {left right : Text} (someLeft : ¬ Text.IsBlank left)
    (someRight : ¬ Text.IsBlank right) (freeLeft : ∀ other ∈ op :: looser, ¬ other.symbol <:+: left)
    (freeRight : ∀ other ∈ looser, ¬ other.symbol <:+: right) :
    first? (Tree.printBinary left op right) = some ⟨op, Text.trim left, Text.trim right⟩ := by
  have pairs := Operator.pairwise_precedence
  rw [order] at pairs
  have apart := (List.pairwise_append.mp pairs).2.2
  have absent : ∀ other ∈ looser, ¬ other.symbol <:+: Tree.printBinary left op right := by
    intro other mem inside
    rcases Text.occurs_cons_of_not_mem other.space_not_mem_symbol inside with front | behind
    · rcases Text.occurs_cons_of_not_mem other.space_not_mem_symbol front with before | within
      · exact freeLeft other (by simp [mem]) before
      · exact apart other mem op (by simp) within
    · exact freeRight other mem behind
  have cut : Text.cut? op.symbol (left ++ ([' '] ++ (op.symbol ++ ' ' :: right))) =
      some (left ++ [' '], ' ' :: right) := by
    have here : ¬ Text.StartsIn op.symbol left ([' '] ++ (op.symbol ++ ' ' :: right)) :=
      Text.not_startsIn_cons op.space_not_mem_symbol (freeLeft op (by simp))
    rw [Text.cut?_append here, Text.cut?_append_pattern (op.black_symbol.not_startsIn_blank Text.isBlank_space _)]
    rfl
  have shape : left ++ ([' '] ++ (op.symbol ++ ' ' :: right)) = Tree.printBinary left op right := by
    simp [Tree.printBinary]
  rw [shape] at cut
  have before : ¬ Text.IsBlank (left ++ [' ']) := fun blank => someLeft (blank.of_subset (by simp))
  have after : ¬ Text.IsBlank (' ' :: right) := fun blank => someRight (blank.of_subset (by simp))
  rw [Split.first?_eq_some order absent cut before after, Text.trim_of_isBlank_right Text.isBlank_space,
    ← List.singleton_append, Text.trim_of_isBlank_left Text.isBlank_space]

theorem Operator.not_occursIn_sides {left right : Text} (freeLeft : ¬ OccursIn left) (freeRight : ¬ OccursIn right) :
    ¬ (occursIn (Text.trim left) || occursIn (Text.trim right)) = true := by
  simp [occursIn_trim_eq_true_iff, freeLeft, freeRight, Bool.or_eq_true]

/-- An operator between two texts at which the whole splits is applied to them as they are. -/
theorem Evaluator.evaluate_of_first? (evaluator : Evaluator) (positive : evaluator.config.maxDepth ≠ 0)
    {left right : Text} (plainLeft : Ungrouped left) (plainRight : Ungrouped right) {op : Operator}
    (found : Split.first? (Tree.printBinary left op right) = some ⟨op, Text.trim left, Text.trim right⟩) :
    let limit := evaluator.config.maxDepth.toNat
    let mode := evaluator.config.comparison
    evaluator.evaluate (Tree.printBinary left op right) =
      (splitValue mode (reduce mode limit (limit - 1) 2) (Tree.printBinary left op right)
        ⟨op, Text.trim left, Text.trim right⟩).outcome := by
  intro limit mode
  rw [evaluate_of_ungrouped evaluator positive (Tree.ungrouped_printBinary plainLeft op plainRight)
    (Tree.not_isBlank_printBinary left op right), ungroupedValue, outcome_ungrouped_of_split _ _ _ found]

/-! ## Equality and inequality -/

/-- An error, and an error that may show another expression and another operator if both are about the same kinds of
    operands that do not go together. -/
inductive EvalError.Alike : EvalError → EvalError → Prop where
  | same (error : EvalError) : Alike error error
  | mismatch (shown shown' : Text) (op op' : Operator) (left right : OperandKind) :
    Alike (.typeMismatch shown op left right) (.typeMismatch shown' op' left right)

/-- The same value, or errors that are alike. -/
inductive Alike : Except EvalError Bool → Except EvalError Bool → Prop where
  | ok (value : Bool) : Alike (.ok value) (.ok value)
  | error {first second : EvalError} : first.Alike second → Alike (.error first) (.error second)

theorem Alike.refl (outcome : Except EvalError Bool) : Alike outcome outcome := by
  cases outcome with
  | ok value => exact .ok value
  | error error => exact .error (.same error)

/-- Outcomes that are alike, of which one is turned around. -/
theorem Alike.map_not {first second : Except EvalError Bool} (alike : Alike first second) :
    (∀ value, second.map not = .ok (!value) ↔ first = .ok value) ∧
      (∀ error, first = .error error → ∃ other, second.map not = .error other ∧ error.Alike other) ∧
      (∀ error, second.map not = .error error → ∃ other, first = .error other ∧ other.Alike error) := by
  cases alike with
  | ok value =>
    refine ⟨fun other => ?_, fun error same => ?_, fun error same => ?_⟩
    · simp [Except.map]
    · simp at same
    · simp [Except.map] at same
  | error alike =>
    refine ⟨fun other => ?_, fun error same => ?_, fun error same => ?_⟩
    · simp [Except.map]
    · exact ⟨_, rfl, Except.error.inj same ▸ alike⟩
    · exact ⟨_, rfl, Except.error.inj same ▸ alike⟩

section

variable (mode : Comparison) (descend : Text → Traced Bool) (text text' : Text) (op op' : Operator)

/-- The expression and the operator are only shown where the operands do not go together. -/
theorem Operand.equals_alike (left right : Operand) :
    Alike (equals mode text op left right) (equals mode text' op' left right) := by
  cases left with
  | quoted a =>
    cases right with
    | quoted b => exact .ok _
    | decimal b | bare b => exact .error (.mismatch ..)
  | decimal a =>
    cases right with
    | decimal b => exact .ok _
    | quoted b | bare b => exact .error (.mismatch ..)
  | bare a =>
    cases right with
    | bare b => exact .refl _
    | quoted b | decimal b => exact .error (.mismatch ..)

theorem equality_alike (left right : Text) :
    Alike (equality mode descend text ⟨op, left, right⟩).outcome
      (equality mode descend text' ⟨op', left, right⟩).outcome := by
  unfold equality
  dsimp only
  split
  · exact .refl _
  · exact Operand.equals_alike mode text text' op op' _ _

/-! ## Operands that change places -/

theorem bind_beq_comm (first second : Option Bool) :
    (first.bind fun a => second.bind fun b => some (a == b)) =
      second.bind fun b => first.bind fun a => some (b == a) := by
  rw [Option.bind_comm]
  simp only [Bool.beq_comm]

theorem Operand.toOption_equals_swap (left right : Operand) :
    (equals mode text op left right).toOption = (equals mode text' op' right left).toOption := by
  cases left with
  | quoted a =>
    cases right with
    | quoted b => exact congrArg some (mode.equals_comm a b)
    | decimal b | bare b => rfl
  | decimal a =>
    cases right with
    | decimal b =>
      refine congrArg some (Bool.eq_iff_iff.mpr ?_)
      rw [Ordering.isEq_iff_eq_eq, Ordering.isEq_iff_eq_eq, Decimal.compare_eq_eq_iff, Decimal.compare_eq_eq_iff,
        eq_comm]
    | quoted b | bare b => rfl
  | bare a =>
    cases right with
    | bare b =>
      show (Boolean.ofText a >>= fun x => Boolean.ofText b >>= fun y => pure (x == y)).toOption =
        (Boolean.ofText b >>= fun y => Boolean.ofText a >>= fun x => pure (y == x)).toOption
      rw [toOption_both, toOption_both, bind_beq_comm]
    | quoted b | decimal b => rfl

theorem value?_equality_swap (left right : Text) :
    (equality mode descend text ⟨op, left, right⟩).value? =
      (equality mode descend text' ⟨op', right, left⟩).value? := by
  unfold equality
  dsimp only
  rw [Bool.or_comm]
  split
  · rw [Traced.value?_both, Traced.value?_both, bind_beq_comm]
  · exact Operand.toOption_equals_swap mode text text' op op' _ _

/-- What is wrong with a truth value is no matter of kinds. -/
theorem Boolean.ofText_ne_typeMismatch {shown : Text} {operator : Operator} {p q : OperandKind} (text : Text) :
    ofText text ≠ .error (.typeMismatch shown operator p q) := by
  intro failed
  obtain ⟨_, _, _, _, _, _, ⟨_, empty⟩ | ⟨_, _, invalid⟩⟩ := ofText_eq_error failed
  · simp at empty
  · simp at invalid

/-- Operands that do not go together do not do so the other way round, and each keeps its kind. -/
theorem Operand.equals_mismatch_swap {left right : Operand} {shown : Text} {operator : Operator}
    {p q : OperandKind} (failed : equals mode text op left right = .error (.typeMismatch shown operator p q)) :
    equals mode text' op' right left = .error (.typeMismatch text' op' q p) := by
  have kinds : ∀ {a b : OperandKind}, (Except.error (.typeMismatch text op a b) : Except EvalError Bool) =
      .error (.typeMismatch shown operator p q) → a = p ∧ b = q := by
    intro a b same
    simp_all
  cases left with
  | quoted a =>
    cases right with
    | quoted b => simp [equals] at failed
    | decimal b | bare b =>
      obtain ⟨rfl, rfl⟩ := kinds failed
      rfl
  | decimal a =>
    cases right with
    | decimal b => simp [equals] at failed
    | quoted b | bare b =>
      obtain ⟨rfl, rfl⟩ := kinds failed
      rfl
  | bare a =>
    cases right with
    | bare b =>
      rcases error_of_both failed with first | second
      · exact absurd first (Boolean.ofText_ne_typeMismatch a)
      · exact absurd second (Boolean.ofText_ne_typeMismatch b)
    | quoted b | decimal b =>
      obtain ⟨rfl, rfl⟩ := kinds failed
      rfl

end

/-! ## Equalities of texts -/

/-- A text that an equality may have as an operand: it is not blank, and no parenthesis and no operator on truth values
    stands in it. Orders between numbers may. -/
structure Comparand (text : Text) : Prop where
  notBlank : ¬ Text.IsBlank text
  plain : Ungrouped text
  free : ∀ op : Operator, op.isRelational = false → ¬ op.symbol <:+: text

theorem Comparand.free_of_mem {text : Text} (comparand : Comparand text) {ops : List Operator}
    (truthful : ∀ op ∈ ops, op.isRelational = false) : ∀ op ∈ ops, ¬ op.symbol <:+: text :=
  fun op mem => comparand.free op (truthful op mem)

namespace Evaluator

variable (evaluator : Evaluator) {left right : Text}

/-- What an equality or an inequality of two texts compares, before an inequality turns the result around. -/
def compared (left : Text) (op : Operator) (right : Text) : Traced Bool :=
  let limit := evaluator.config.maxDepth.toNat
  equality evaluator.config.comparison (reduce evaluator.config.comparison limit (limit - 1) 2)
    (Tree.printBinary left op right) ⟨op, Text.trim left, Text.trim right⟩

/-- Texts without operators are compared as the operands that they are. -/
theorem outcome_compared_of_leaves (freeLeft : ¬ Operator.OccursIn left) (op : Operator)
    (freeRight : ¬ Operator.OccursIn right) :
    (evaluator.compared left op right).outcome =
      Operand.equals evaluator.config.comparison (Tree.printBinary left op right) op
        (Operand.ofText (Text.trim left)) (Operand.ofText (Text.trim right)) := by
  unfold compared equality
  dsimp only
  rw [if_neg (Operator.not_occursIn_sides freeLeft freeRight)]
  rfl

section

variable (positive : evaluator.config.maxDepth ≠ 0) (one : Comparand left) (two : Comparand right)
include positive one two

theorem evaluate_eq :
    evaluator.evaluate (Tree.printBinary left .eq right) = (evaluator.compared left .eq right).outcome := by
  have order : Operator.precedence = [.or, .and, .ne] ++ .eq :: [.ge, .le, .gt, .lt] := rfl
  have found := Split.first?_printBinary order one.notBlank two.notBlank (one.free_of_mem (by decide))
    (two.free_of_mem (by decide))
  exact evaluate_of_first? evaluator positive one.plain two.plain found

theorem evaluate_ne :
    evaluator.evaluate (Tree.printBinary left .ne right) = (evaluator.compared left .ne right).outcome.map not := by
  have order : Operator.precedence = [.or, .and] ++ .ne :: [.eq, .ge, .le, .gt, .lt] := rfl
  have found := Split.first?_printBinary order one.notBlank two.notBlank (one.free_of_mem (by decide))
    (two.free_of_mem (by decide))
  rw [evaluate_of_first? evaluator positive one.plain two.plain found]
  show (evaluator.compared left .ne right >>= fun equal => pure (!equal)).outcome = _
  rw [Traced.outcome_bind]
  cases (evaluator.compared left .ne right).outcome <;> rfl

end

/-- An inequality has a value where the equality of the same texts has the opposite one, and it fails where the
    equality does, with an error that is alike. The texts may change places without changing the value of the
    equality; where they do not go together, their kinds change places with them. -/
theorem evaluate_eq_ne_swap (positive : evaluator.config.maxDepth ≠ 0) (one : Comparand left)
    (two : Comparand right) :
    let equal := evaluator.evaluate (Tree.printBinary left .eq right)
    let unequal := evaluator.evaluate (Tree.printBinary left .ne right)
    let swapped := evaluator.evaluate (Tree.printBinary right .eq left)
    (∀ value, unequal = .ok (!value) ↔ equal = .ok value) ∧
      (∀ error, equal = .error error → ∃ other, unequal = .error other ∧ error.Alike other) ∧
      (∀ error, unequal = .error error → ∃ other, equal = .error other ∧ other.Alike error) ∧
      (∀ value, equal = .ok value ↔ swapped = .ok value) ∧
      (¬ Operator.OccursIn left → ¬ Operator.OccursIn right → ∀ shown op p q,
        equal = .error (.typeMismatch shown op p q) →
          swapped = .error (.typeMismatch (Tree.printBinary right .eq left) .eq q p)) := by
  intro equal unequal swapped
  have forward : equal = (evaluator.compared left .eq right).outcome := evaluate_eq evaluator positive one two
  have opposite : unequal = (evaluator.compared left .ne right).outcome.map not :=
    evaluate_ne evaluator positive one two
  have backward : swapped = (evaluator.compared right .eq left).outcome := evaluate_eq evaluator positive two one
  have alike : Alike equal (evaluator.compared left .ne right).outcome := forward ▸ equality_alike ..
  have values : equal.toOption = swapped.toOption := by
    rw [forward, backward]
    exact value?_equality_swap ..
  rw [opposite]
  obtain ⟨value, failed, refused⟩ := alike.map_not
  refine ⟨value, failed, refused, fun value => ?_, fun freeLeft freeRight shown op p q mismatch => ?_⟩
  · rw [← toOption_eq_some_iff, values, toOption_eq_some_iff]
  · rw [forward, evaluator.outcome_compared_of_leaves freeLeft .eq freeRight] at mismatch
    rw [backward, evaluator.outcome_compared_of_leaves freeRight .eq freeLeft]
    exact Operand.equals_mismatch_swap _ _ _ _ _ mismatch

/-- An order between numbers is compared as a truth value. The single `=` at the end of a text makes no operator with
    the one that follows, and the text is no string. -/
theorem evaluate_eq_ne_swap_unlike :
    let order := "1 < 2".toList
    let negated := "!true".toList
    let sign := "7 =".toList
    let string := "\"x\"".toList
    (default : Evaluator).evaluate (Tree.printBinary order .ne negated) = .ok true ∧
      (default : Evaluator).evaluate (Tree.printBinary negated .eq order) = .ok false ∧
      (default : Evaluator).evaluate (Tree.printBinary string .eq sign) =
        .error (.typeMismatch "\"x\" == 7 =".toList .eq .string .unknown) := by
  intro order negated sign string
  have free : ∀ {text : Text}, (∀ op : Operator, op ∈ [.or, .and, .ne, .eq] → Text.cut? op.symbol text = none) →
      ∀ op : Operator, op.isRelational = false → ¬ op.symbol <:+: text := by
    intro text uncut op truthful
    rw [← Text.cut?_eq_none_iff]
    cases op <;> simp_all [Operator.isRelational]
  have one : Comparand order := ⟨by decide, by decide, free (by decide)⟩
  have two : Comparand negated := ⟨by decide, by decide, free (by decide)⟩
  have three : Comparand sign := ⟨by decide, by decide, free (by decide)⟩
  have four : Comparand string := ⟨by decide, by decide, free (by decide)⟩
  have operatorFree : ∀ text ∈ [sign, string], ¬ Operator.OccursIn text := by
    intro text mem
    rw [← Operator.occursIn_iff]
    revert text
    decide
  have known : (default : Evaluator).evaluate (Tree.printBinary order .eq negated) = .ok false := by decide +kernel
  have failed : (default : Evaluator).evaluate (Tree.printBinary sign .eq string) =
      .error (.typeMismatch "7 = == \"x\"".toList .eq .unknown .string) := by decide +kernel
  obtain ⟨opposite, _, _, same, _⟩ := evaluate_eq_ne_swap default (by decide) one two
  obtain ⟨_, _, _, _, kinds⟩ := evaluate_eq_ne_swap default (by decide) three four
  exact ⟨(opposite false).mpr known, (same false).mp known,
    kinds (operatorFree sign (by simp)) (operatorFree string (by simp)) _ _ _ _ failed⟩

end Evaluator

end Verdict
