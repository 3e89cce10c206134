import Mathlib.Logic.Function.Iterate
import Verdict.Proofs.Chain.Evaluation
import Verdict.Proofs.Group.Matched
import Verdict.Proofs.OnePass

/-!
# Expressions in parentheses

An expression in parentheses is evaluated as it is on its own, whatever stands around it, and what comes to the text
around it is one word or one error (`onePass_parenthesized`). So an operator between two expressions in parentheses is
applied to their values, negations in front of one turn its value around, and more parentheses make no difference.
-/
namespace Verdict

/-! ## What the pass leaves of a text -/

/-- The pass over a text whose parentheses match leaves a text of it, or stops with an error. Neither depends on what
    stands around the text. -/
theorem Matched.exists_left (value : Text → Except EvalError Bool) {text : Text} (matched : Matched text) :
    ∃ left : Except EvalError Text, ∀ outer buffer rest,
      onePass value outer buffer (text ++ rest) =
        left.bind fun text => onePass value outer (buffer ++ text) rest := by
  induction matched with
  | nil => exact ⟨.ok [], fun outer buffer rest => by simp [Except.bind]⟩
  | @char c text noOpen noClose _ ih =>
    obtain ⟨left, pass⟩ := ih
    refine ⟨left.map (c :: ·), fun outer buffer rest => ?_⟩
    rw [List.cons_append, onePass_char value noOpen noClose, pass]
    cases left <;> simp [Except.bind, Except.map]
  | @group inner text _ _ ihInner ihText =>
    obtain ⟨inside, passInner⟩ := ihInner
    obtain ⟨behind, passText⟩ := ihText
    refine ⟨inside.bind fun group => (value group).bind fun result => behind.map (Boolean.word result ++ ·),
      fun outer buffer rest => ?_⟩
    have shape : parenthesized inner ++ text ++ rest = '(' :: (inner ++ ')' :: (text ++ rest)) := by
      simp [parenthesized]
    rw [shape, onePass_open, passInner]
    cases inside with
    | error error => rfl
    | ok group =>
      simp only [Except.bind, List.nil_append, onePass_close]
      cases value group with
      | error error => rfl
      | ok result =>
        simp only [passText]
        cases behind <;> simp [Except.bind, Except.map]

/-- The pass evaluates a text in parentheses as it would on its own, and goes on with the word for the value. -/
theorem onePass_parenthesized (value : Text → Except EvalError Bool) {text : Text} (balanced : Balanced text)
    (outer : List Text) (buffer rest : Text) :
    onePass value outer buffer (parenthesized text ++ rest) =
      (onePass value [] [] text).bind fun result => onePass value outer (buffer ++ Boolean.word result) rest := by
  obtain ⟨left, pass⟩ := (balanced_iff_matched.mp balanced).exists_left value
  have alone := pass [] [] []
  simp only [List.append_nil, List.nil_append] at alone
  have shape : parenthesized text ++ rest = '(' :: (text ++ ')' :: rest) := by simp [parenthesized]
  rw [shape, onePass_open, pass, alone]
  cases left with
  | error error => rfl
  | ok text =>
    simp only [Except.bind, List.nil_append, onePass_close]
    rfl

namespace Evaluator

variable (evaluator : Evaluator)

/-! ## The word in place of the parentheses -/

theorem evaluate_eq_onePass (positive : evaluator.config.maxDepth ≠ 0) {expression : Text}
    (grouped : WellGrouped expression) (notBlank : ¬ Text.IsBlank expression) :
    evaluator.evaluate expression = onePass evaluator.ungroupedValue [] [] expression := by
  obtain ⟨levels, limit⟩ := exists_levels positive
  rw [evaluate_of_not_isBlank evaluator notBlank, limit, reduce, outcome_reduceGroups _ _ grouped]
  unfold ungroupedValue
  simp [limit]

/-- A text that is not blank may be put into parentheses. -/
theorem wellGrouped_parenthesized {text : Text} (grouped : WellGrouped text) (notBlank : ¬ Text.IsBlank text) :
    WellGrouped (parenthesized text) := by
  refine grouped.parenthesized ?_
  rintro rfl
  exact notBlank (by decide)

theorem not_isBlank_parenthesized (before text after : Text) :
    ¬ Text.IsBlank (before ++ (parenthesized text ++ after)) :=
  fun blank => blank.unmarked.ungrouped.1 (by simp [parenthesized])

/-- Two words with an operator between them are left of two expressions in parentheses. -/
theorem ungroupedValue_words (enough : 2 ≤ evaluator.config.maxDepth.toNat) {op : Operator}
    (logical : op.isRelational = false) {left right : Text} (blankLeft : Text.IsBlank left)
    (blankRight : Text.IsBlank right) (a b : Bool) :
    evaluator.ungroupedValue (Boolean.word a ++ left ++ op.symbol ++ right ++ Boolean.word b) =
      .ok (Chain.combine op a b) := by
  obtain ⟨levels, limit⟩ := Nat.exists_eq_add_of_le' enough
  unfold ungroupedValue
  simp only [limit]
  exact Chain.outcome_ungrouped_words _ _ levels 1 logical blankLeft blankRight a b

theorem foldr_not (spaces : List Text) (value : Bool) :
    spaces.foldr (fun _ value => !value) value = not^[spaces.length] value := by
  induction spaces with
  | nil => rfl
  | cons space spaces ih => rw [List.foldr_cons, ih, List.length_cons, Function.iterate_succ_apply']

/-- Each negation in front of a word turns its value into the other one. -/
theorem ungroupedValue_negations {count : Nat} {front : Text} (negated : Boolean.Negations count front)
    (value : Bool) : evaluator.ungroupedValue (front ++ Boolean.word value) = .ok (not^[count] value) := by
  obtain ⟨spaces, rfl, blank, rfl⟩ := Boolean.Spelling.exists_of_negations negated
  let spelling : Boolean.Spelling := ⟨spaces, Boolean.word value⟩
  have known : Boolean.ofWord? (Boolean.word value) = some value := by cases value <;> decide
  have valid : (Link.truth spelling).IsValid := ⟨blank, by simp [spelling, known]⟩
  have turned : spelling.value = not^[spaces.length] value := by
    simp only [Boolean.Spelling.value, spelling, known, Option.getD_some, foldr_not]
  have reads := (Link.reads_print valid Text.isBlank_nil Text.isBlank_nil).outcome_ungrouped
    evaluator.config.comparison 1
    (reduce evaluator.config.comparison evaluator.config.maxDepth.toNat (evaluator.config.maxDepth.toNat - 1) 2)
  rw [← turned]
  simpa [ungroupedValue, Link.print, Link.value, Boolean.Spelling.print] using reads

/-! ## Operators and negations -/

/-- An operator between two expressions in parentheses is applied to their values. Both are evaluated, the left one
    first, and the first error is the error of the whole. -/
theorem evaluate_parenthesized_operands (enough : 2 ≤ evaluator.config.maxDepth.toNat) {op : Operator}
    (logical : op.isRelational = false) {left right : Text} (blankLeft : Text.IsBlank left)
    (blankRight : Text.IsBlank right) {a b : Text} (groupedA : WellGrouped a) (notBlankA : ¬ Text.IsBlank a)
    (groupedB : WellGrouped b) (notBlankB : ¬ Text.IsBlank b) :
    evaluator.evaluate (parenthesized a ++ left ++ op.symbol ++ right ++ parenthesized b) = do
      let x ← evaluator.evaluate a
      let y ← evaluator.evaluate b
      return Chain.combine op x y := by
  have positive : evaluator.config.maxDepth ≠ 0 := by
    intro zero
    simp [zero] at enough
  have plain : Ungrouped (left ++ op.symbol ++ right) :=
    ungrouped_append_iff.mpr ⟨ungrouped_append_iff.mpr ⟨blankLeft.unmarked.ungrouped, op.ungrouped_symbol⟩,
      blankRight.unmarked.ungrouped⟩
  have shape : parenthesized a ++ left ++ op.symbol ++ right ++ parenthesized b =
      parenthesized a ++ ((left ++ op.symbol ++ right) ++ (parenthesized b ++ [])) := by simp
  have grouped : WellGrouped (parenthesized a ++ ((left ++ op.symbol ++ right) ++ (parenthesized b ++ []))) := by
    rw [List.append_nil]
    exact (wellGrouped_parenthesized groupedA notBlankA).append
      (plain.wellGrouped.append (wellGrouped_parenthesized groupedB notBlankB))
  rw [shape, evaluate_eq_onePass evaluator positive grouped (not_isBlank_parenthesized [] a _),
    evaluate_eq_onePass evaluator positive groupedA notBlankA,
    evaluate_eq_onePass evaluator positive groupedB notBlankB,
    onePass_parenthesized _ groupedA.1]
  refine congrArg (Except.bind _) (funext fun x => ?_)
  rw [List.nil_append, Passes.of_ungrouped plain, onePass_parenthesized _ groupedB.1]
  refine congrArg (Except.bind _) (funext fun y => ?_)
  have words := ungroupedValue_words evaluator enough logical blankLeft blankRight x y
  simp only [List.append_assoc] at words ⊢
  exact words

/-- A left operand that is false does not keep the error of the right one from being reported. -/
theorem evaluate_parenthesized_operands_failing :
    (default : Evaluator).evaluate "(!(1<2)) && (true || (1<2)x)".toList = .error (.invalidBoolean "truex".toList) := by
  have groupedA : WellGrouped "!(1<2)".toList := by decide +kernel
  have groupedB : WellGrouped "true || (1<2)x".toList := by decide +kernel
  have logical : Operator.and.isRelational = false := rfl
  have known := evaluate_parenthesized_operands default (by decide) logical Text.isBlank_space Text.isBlank_space
    groupedA (by decide) groupedB (by decide)
  have a : (default : Evaluator).evaluate "!(1<2)".toList = .ok false := by decide +kernel
  have b : (default : Evaluator).evaluate "true || (1<2)x".toList = .error (.invalidBoolean "truex".toList) := by
    decide +kernel
  rw [a, b] at known
  exact known

/-- Negations in front of an expression in parentheses turn its value around, once each. -/
theorem evaluate_negated (positive : evaluator.config.maxDepth ≠ 0) {expression : Text}
    (grouped : WellGrouped expression) (notBlank : ¬ Text.IsBlank expression) {count : Nat} {front : Text}
    (negated : Boolean.Negations count front) :
    evaluator.evaluate (front ++ parenthesized expression) = (evaluator.evaluate expression).map not^[count] := by
  have plain := negated.unmarked.ungrouped
  have whole : WellGrouped (front ++ (parenthesized expression ++ [])) := by
    rw [List.append_nil]
    exact plain.wellGrouped.append (wellGrouped_parenthesized grouped notBlank)
  rw [← List.append_nil (parenthesized expression),
    evaluate_eq_onePass evaluator positive whole (not_isBlank_parenthesized front expression []),
    evaluate_eq_onePass evaluator positive grouped notBlank, Passes.of_ungrouped plain,
    onePass_parenthesized _ grouped.1]
  cases onePass evaluator.ungroupedValue [] [] expression with
  | error error => rfl
  | ok value => exact ungroupedValue_negations evaluator negated value

/-- Negations in front of an expression in parentheses turn its value around, once each, and parentheses around it make
    no difference, however many there are. -/
theorem evaluate_negations_parenthesized (positive : evaluator.config.maxDepth ≠ 0) {expression : Text}
    (grouped : WellGrouped expression) (notBlank : ¬ Text.IsBlank expression) :
    (∀ count front, Boolean.Negations count front →
      evaluator.evaluate (front ++ parenthesized expression) = (evaluator.evaluate expression).map not^[count]) ∧
    ∀ layers, evaluator.evaluate (parenthesized^[layers] expression) = evaluator.evaluate expression := by
  refine ⟨fun count front negated => evaluate_negated evaluator positive grouped notBlank negated, fun layers => ?_⟩
  have layer : ∀ {expression : Text}, WellGrouped expression → ¬ Text.IsBlank expression →
      evaluator.evaluate (parenthesized expression) = evaluator.evaluate expression := by
    intro expression grouped notBlank
    have known := evaluate_negated evaluator positive grouped notBlank .none
    rw [List.nil_append] at known
    rw [known]
    cases evaluator.evaluate expression <;> rfl
  induction layers generalizing expression with
  | zero => rfl
  | succ layers ih =>
    have not_blank := not_isBlank_parenthesized [] expression []
    rw [List.append_nil, List.nil_append] at not_blank
    rw [Function.iterate_succ_apply, ih (wellGrouped_parenthesized grouped notBlank) not_blank, layer grouped notBlank]

/-- One level is enough for three negations and for three layers of parentheses. -/
theorem evaluate_negations_parenthesized_one_level :
    let evaluator : Evaluator := ⟨⟨.ordinal, 1⟩⟩
    evaluator.evaluate "! !!(!(1<2))".toList = .ok true ∧ evaluator.evaluate "(((!(1<2))))".toList = .ok false := by
  intro evaluator
  have grouped : WellGrouped "!(1<2)".toList := by decide +kernel
  have value : evaluator.evaluate "!(1<2)".toList = .ok false := by decide +kernel
  have negated : Boolean.Negations 3 "! !!".toList :=
    .more Text.isBlank_space (.more Text.isBlank_nil (.more Text.isBlank_nil .none))
  obtain ⟨negations, layers⟩ := evaluate_negations_parenthesized evaluator (by decide) grouped (by decide)
  exact ⟨(negations 3 _ negated).trans (by rw [value]; rfl), (layers 3).trans value⟩

end Evaluator
end Verdict
