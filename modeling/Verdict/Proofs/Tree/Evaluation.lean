import Verdict.Proofs.Chain.Evaluation
import Verdict.Proofs.OnePass
import Verdict.Proofs.Tree.Leaves

/-!
# Trees have their value

The one pass over the text of a tree meets its subtrees in parentheses, and leaves a word for each of them. What is
left of a tree then is one operator between literals (`flat`), whatever the depth of the tree, so two levels are enough
for every tree.
-/
namespace Verdict.Tree

/-- The text of a tree with words in place of its subtrees in parentheses. -/
def flat (mode : Comparison) : Tree → Text
  | .not inner => '!' :: Boolean.word (inner.value mode)
  | .binary op left right => printBinary (Boolean.word (left.value mode)) op (Boolean.word (right.value mode))
  | leaf => leaf.print

variable {mode : Comparison} {tree : Tree}

/-! ## The text that is left -/

theorem ungrouped_spaced (op : Operator) : Ungrouped (' ' :: op.symbol ++ [' ']) := by
  cases op <;> decide

theorem ungrouped_printInt {n : Int} (small : n.natAbs < coefficientBound) : Ungrouped (printInt n) := by
  obtain ⟨d, read, _⟩ := exists_ofText?_printInt small
  have unmarked : Unmarked (Text.trim (printInt n)) := Decimal.unmarked (by simp [read])
  rw [trim_printInt] at unmarked
  exact unmarked.ungrouped

theorem ungrouped_printString {text : Text} (plain : IsPlain text) : Ungrouped (printString text) := by
  simp [Ungrouped, printString, plain.1.1, plain.1.2]

theorem ungrouped_printBinary {left right : Text} (one : Ungrouped left) (op : Operator) (two : Ungrouped right) :
    Ungrouped (printBinary left op right) := by
  have whole := ungrouped_append_iff.mpr ⟨ungrouped_append_iff.mpr ⟨one, ungrouped_spaced op⟩, two⟩
  simpa [printBinary] using whole

theorem ungrouped_flat (mode : Comparison) (valid : tree.IsValid) : Ungrouped (tree.flat mode) := by
  cases tree with
  | truth spelling => exact (Boolean.Spelling.unmarked_print valid).ungrouped
  | numbers op left right =>
    exact ungrouped_printBinary (ungrouped_printInt valid.2.1) op (ungrouped_printInt valid.2.2)
  | strings equal left right =>
    exact ungrouped_printBinary (ungrouped_printString valid.1) _ (ungrouped_printString valid.2)
  | not inner =>
    have word := Boolean.ungrouped_word (inner.value mode)
    simp [flat, Ungrouped, word.1, word.2]
  | binary op left right =>
    exact ungrouped_printBinary (Boolean.ungrouped_word _) op (Boolean.ungrouped_word _)

/-! ## The value of what is left -/

theorem outcome_ungrouped_truth (mode : Comparison) (depth : Nat) (descend : Text → Traced Bool)
    {spelling : Boolean.Spelling} (valid : spelling.IsValid) :
    (ungrouped mode depth descend spelling.print).outcome = .ok spelling.value := by
  have reads : Reads spelling.print spelling.value :=
    .truth (Boolean.ofText_eq_ok_iff.mpr ⟨spelling, valid, Boolean.Spelling.trim_print valid, rfl⟩)
  exact reads.outcome_ungrouped mode depth descend

/-- An operator between two words is applied to the truth values. -/
theorem outcome_ungrouped_printBinary (mode : Comparison) (limit levels depth : Nat) {op : Operator}
    (truthful : IsTruthful op) (a b : Bool) :
    (ungrouped mode depth (reduce mode limit (levels + 1) (depth + 1))
      (printBinary (Boolean.word a) op (Boolean.word b))).outcome = .ok (Chain.combine op a b) := by
  have value := Chain.outcome_ungrouped_words mode limit levels depth truthful Text.isBlank_space Text.isBlank_space a b
  simpa [printBinary] using value

/-- What is left of a tree has the value of the tree. -/
theorem outcome_flat (mode : Comparison) (limit levels depth : Nat) (valid : tree.IsValid) :
    (ungrouped mode depth (reduce mode limit (levels + 1) (depth + 1)) (tree.flat mode)).outcome =
      .ok (tree.value mode) := by
  cases tree with
  | truth spelling => exact outcome_ungrouped_truth mode depth _ valid
  | numbers op left right => exact outcome_ungrouped_numbers mode depth _ valid.1 valid.2.1 valid.2.2
  | strings equal left right => exact outcome_ungrouped_strings mode depth _ equal valid.1 valid.2
  | not inner =>
    have spelled : ∀ value, ((⟨[[]], Boolean.word value⟩ : Boolean.Spelling).IsValid) ∧
        (⟨[[]], Boolean.word value⟩ : Boolean.Spelling).value = !value := by
      intro value
      cases value <;> decide
    obtain ⟨good, value⟩ := spelled (inner.value mode)
    have known := outcome_ungrouped_truth mode depth (reduce mode limit (levels + 1) (depth + 1)) good
    rw [value] at known
    exact known
  | binary op left right =>
    have known := outcome_ungrouped_printBinary mode limit levels depth valid.1 (left.value mode) (right.value mode)
    cases op <;> exact known

/-! ## The pass over the text of a tree -/

theorem wellGrouped_printBinary {left right : Text} (one : WellGrouped left) (op : Operator)
    (two : WellGrouped right) : WellGrouped (printBinary left op right) := by
  have whole := (one.append (ungrouped_spaced op).wellGrouped).append two
  simpa [printBinary] using whole

theorem not_isBlank_printBinary (left : Text) (op : Operator) (right : Text) :
    ¬ Text.IsBlank (printBinary left op right) := by
  intro blank
  refine op.black_symbol.not_occurs_blank blank ⟨left ++ [' '], ' ' :: right, ?_⟩
  simp [printBinary]

theorem not_isBlank_print (valid : tree.IsValid) : ¬ Text.IsBlank tree.print := by
  cases tree with
  | truth spelling =>
    intro blank
    rw [← Text.trim_eq_nil_iff, print, Boolean.Spelling.trim_print valid] at blank
    exact Boolean.Spelling.print_ne_nil valid blank
  | numbers op left right => exact not_isBlank_printBinary _ op _
  | strings equal left right => exact not_isBlank_printBinary _ _ _
  | not inner =>
    intro blank
    exact absurd (blank '!' (by simp [print])) (by decide)
  | binary op left right => exact not_isBlank_printBinary _ op _

theorem print_ne_nil (valid : tree.IsValid) : tree.print ≠ [] := by
  intro empty
  exact not_isBlank_print valid (by simp [empty, Text.IsBlank])

/-- The parentheses of a tree match, with something between them. -/
theorem wellGrouped_print (valid : tree.IsValid) : WellGrouped tree.print := by
  induction tree with
  | truth | numbers | strings => exact (ungrouped_flat .ordinal valid).wellGrouped
  | not inner ih =>
    have bang : Ungrouped ['!'] := by decide
    exact bang.wellGrouped.append ((ih valid).parenthesized (print_ne_nil valid))
  | binary op left right ihl ihr =>
    exact wellGrouped_printBinary ((ihl valid.2.1).parenthesized (print_ne_nil valid.2.1)) op
      ((ihr valid.2.2).parenthesized (print_ne_nil valid.2.2))

/-- The pass leaves a word for each subtree in parentheses. -/
theorem passes_print (value : Text → Except EvalError Bool)
    (evaluates : ∀ {tree : Tree}, tree.IsValid → value (tree.flat mode) = .ok (tree.value mode))
    (valid : tree.IsValid) : Passes value tree.print (tree.flat mode) := by
  induction tree with
  | truth | numbers | strings => exact .of_ungrouped (ungrouped_flat mode valid)
  | not inner ih =>
    have bang : Ungrouped ['!'] := by decide
    have known : value (inner.flat mode) = .ok (inner.value mode) := evaluates valid
    exact (Passes.of_ungrouped bang).append ((ih valid).parenthesized known)
  | binary op left right ihl ihr =>
    have first := (ihl valid.2.1).parenthesized (evaluates valid.2.1)
    have second := (ihr valid.2.2).parenthesized (evaluates valid.2.2)
    have whole := (first.append (.of_ungrouped (ungrouped_spaced op))).append second
    simpa [print, flat, printBinary] using whole

end Verdict.Tree

namespace Verdict.Evaluator

/-- An operator between two texts without parentheses, if its outcome does not depend on how deep it stands. -/
theorem evaluate_printBinary (evaluator : Evaluator) (positive : evaluator.config.maxDepth ≠ 0) {left right : Text}
    {op : Operator} {outcome : Except EvalError Bool} (one : Ungrouped left) (two : Ungrouped right)
    (known : ∀ depth descend,
      (ungrouped evaluator.config.comparison depth descend (Tree.printBinary left op right)).outcome = outcome) :
    evaluator.evaluate (Tree.printBinary left op right) = outcome := by
  rw [evaluate_of_ungrouped evaluator positive (Tree.ungrouped_printBinary one op two)
    (Tree.not_isBlank_printBinary left op right), ungroupedValue]
  exact known _ _

/-- An expression with every operand in parentheses has the value of its tree, however deep the tree is, unless the
    limit on the depth forbids any operands. -/
theorem evaluate_print_tree (evaluator : Evaluator) {tree : Tree} (valid : tree.IsValid)
    (enough : 2 ≤ evaluator.config.maxDepth.toNat) :
    evaluator.evaluate tree.print = .ok (tree.value evaluator.config.comparison) := by
  obtain ⟨levels, limit⟩ : ∃ levels, evaluator.config.maxDepth.toNat = levels + 2 :=
    Nat.exists_eq_add_of_le' enough
  rw [evaluate_of_not_isBlank evaluator (Tree.not_isBlank_print valid), limit, reduce,
    outcome_reduceGroups _ _ (Tree.wellGrouped_print valid)]
  have value {tree : Tree} (valid : tree.IsValid) :=
    Tree.outcome_flat evaluator.config.comparison (levels + 2) levels 1 valid
  have pass := Tree.passes_print (fun text => (ungrouped _ 1 _ text).outcome) value valid [] [] []
  rw [List.append_nil, List.nil_append] at pass
  rw [pass]
  exact value valid

/-- The tree is deeper than the limit. -/
theorem evaluate_print_tree_deep :
    let evaluator : Evaluator := ⟨⟨.caseInsensitive, 2⟩⟩
    evaluator.evaluate "!(((\"a\" != \"A\") || (1 <= -2)) == (TRUE))".toList = .ok true := by
  let tree : Tree :=
    .not (.binary .eq (.binary .or (.strings false ['a'] ['A']) (.numbers .le 1 (-2)))
      (.truth ⟨[], ['T', 'R', 'U', 'E']⟩))
  have valid : tree.IsValid := by decide +kernel
  have text : tree.print = "!(((\"a\" != \"A\") || (1 <= -2)) == (TRUE))".toList := by decide +kernel
  have value : tree.value .caseInsensitive = true := by decide +kernel
  have known := evaluate_print_tree ⟨⟨.caseInsensitive, 2⟩⟩ valid (by decide)
  rw [text] at known
  exact known.trans (congrArg Except.ok value)

end Verdict.Evaluator
