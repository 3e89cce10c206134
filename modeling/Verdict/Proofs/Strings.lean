import Verdict.Proofs.Tree.Evaluation

/-!
# Strings between quotes

Two strings between quotes are the same where the texts between the quotes are, whatever these texts begin and end
with: white space in them is not trimmed, and no mark in them composes with a quote.
-/
namespace Verdict.Evaluator

/-- An equality of two strings between quotes has the value that the configured comparison gives the texts between the
    quotes, although the quotes are compared with them. -/
theorem evaluate_printString_eq_equals (evaluator : Evaluator) (positive : evaluator.config.maxDepth ≠ 0)
    {left right : Text} (plainLeft : Tree.IsPlain left) (plainRight : Tree.IsPlain right) :
    evaluator.evaluate (Tree.printBinary (Tree.printString left) .eq (Tree.printString right)) =
        .ok (evaluator.config.comparison.equals left right) ∧
      evaluator.evaluate (Tree.printBinary (Tree.printString left) .ne (Tree.printString right)) =
        .ok (!evaluator.config.comparison.equals left right) := by
  have one := Tree.ungrouped_printString plainLeft
  have two := Tree.ungrouped_printString plainRight
  constructor
  · refine evaluate_printBinary evaluator positive one two fun depth descend => ?_
    simpa using Tree.outcome_ungrouped_strings _ depth descend true plainLeft plainRight
  · refine evaluate_printBinary evaluator positive one two fun depth descend => ?_
    simpa using Tree.outcome_ungrouped_strings _ depth descend false plainLeft plainRight

/-- The marks behind the first quote are equivalent in both orders, and white space before the last quote counts. -/
theorem evaluate_printString_eq_equals_marked :
    let evaluator : Evaluator := ⟨⟨.cultureAware, 1⟩⟩
    let marked : Text := [Char.ofNat 0x0301, Char.ofNat 0x0323, '"', ' ']
    let swapped : Text := [Char.ofNat 0x0323, Char.ofNat 0x0301, '"', ' ']
    evaluator.evaluate (Tree.printBinary (Tree.printString marked) .eq (Tree.printString swapped)) = .ok true ∧
      evaluator.evaluate (Tree.printBinary (Tree.printString marked) .ne (Tree.printString ['"'])) = .ok true := by
  intro evaluator marked swapped
  have plainMarked : Tree.IsPlain marked := by decide +kernel
  have plainSwapped : Tree.IsPlain swapped := by decide +kernel
  have plainQuote : Tree.IsPlain ['"'] := by decide +kernel
  have same : evaluator.config.comparison.equals marked swapped = true := by decide +kernel
  have other : evaluator.config.comparison.equals marked ['"'] = false := by decide +kernel
  obtain ⟨eq, _⟩ := evaluate_printString_eq_equals evaluator (by decide) plainMarked plainSwapped
  obtain ⟨_, ne⟩ := evaluate_printString_eq_equals evaluator (by decide) plainMarked plainQuote
  rw [eq, ne, same, other]
  exact ⟨rfl, rfl⟩

end Verdict.Evaluator
