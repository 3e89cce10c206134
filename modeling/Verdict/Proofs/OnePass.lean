import Verdict.Evaluation.OnePass
import Verdict.Proofs.Evaluation
import Verdict.Proofs.Group.Substitution

/-!
# Groups in one pass

Evaluating the groups of a text one by one, each time with all copies of a group at once, comes to what one pass from
left to right comes to. The copies of a group further on are evaluated again in the pass, to the same value: the pass
does not tell a copy from its value (`onePass_substitute`).
-/
namespace Verdict

variable (value : Text → Except EvalError Bool)

theorem onePass_open (outer : List Text) (buffer rest : Text) :
    onePass value outer buffer ('(' :: rest) = onePass value (buffer :: outer) [] rest := by
  rw [onePass.eq_def]
  rfl

theorem onePass_close (outer : List Text) (before buffer rest : Text) :
    onePass value (before :: outer) buffer (')' :: rest) =
      (value buffer).bind fun result => onePass value outer (before ++ Boolean.word result) rest := by
  rw [onePass.eq_def]
  rfl

theorem onePass_stray (buffer rest : Text) :
    onePass value [] buffer (')' :: rest) = onePass value [] (buffer ++ [')']) rest := by
  rw [onePass.eq_def]
  rfl

theorem onePass_char {c : Char} (notOpen : c ≠ '(') (notClose : c ≠ ')') (outer : List Text) (buffer rest : Text) :
    onePass value outer buffer (c :: rest) = onePass value outer (buffer ++ [c]) rest := by
  rw [onePass.eq_def]
  simp [notOpen, notClose]

/-- The pass reads the text as it reads the text that is left of it, wherever it comes to it. -/
def Passes (text left : Text) : Prop :=
  ∀ outer buffer rest, onePass value outer buffer (text ++ rest) = onePass value outer (buffer ++ left) rest

namespace Passes

variable {value} {a b left right : Text}

theorem of_ungrouped (plain : Ungrouped a) : Passes value a a :=
  onePass_append plain.1 plain.2 value

/-- Where the text ends, what is left of it is evaluated. -/
theorem onePass_eq (whole : Passes value a left) (outer : List Text) (buffer : Text) :
    onePass value outer buffer a = value (buffer ++ left) := by
  have pass := whole outer buffer []
  rwa [List.append_nil] at pass

theorem append (first : Passes value a left) (second : Passes value b right) :
    Passes value (a ++ b) (left ++ right) := by
  intro outer buffer rest
  rw [List.append_assoc, first, second, List.append_assoc]

/-- The pass evaluates a group that it meets, and goes on with the value in its place. -/
theorem onePass_parenthesized (inner : Passes value a left) (outer : List Text) (buffer rest : Text) :
    onePass value outer buffer (Verdict.parenthesized a ++ rest) =
      (value left).bind fun result => onePass value outer (buffer ++ Boolean.word result) rest := by
  have shape : Verdict.parenthesized a ++ rest = '(' :: (a ++ ')' :: rest) := by simp [Verdict.parenthesized]
  rw [shape, onePass_open, inner, List.nil_append, onePass_close]

theorem parenthesized (inner : Passes value a left) {result : Bool} (known : value left = .ok result) :
    Passes value (Verdict.parenthesized a) (Boolean.word result) := by
  intro outer buffer rest
  rw [inner.onePass_parenthesized, known]
  rfl

end Passes

/-- The texts that are kept before the group that is closed first do not depend on what follows. -/
theorem exists_onePass_append {front : Text} (open_ : ')' ∉ front) (outer : List Text) (buffer : Text) :
    ∃ outer' buffer', ∀ rest, onePass value outer buffer (front ++ rest) = onePass value outer' buffer' rest := by
  induction front generalizing outer buffer with
  | nil => exact ⟨outer, buffer, fun _ => rfl⟩
  | cons c front ih =>
    have tail : ')' ∉ front := fun mem => open_ (by simp [mem])
    by_cases opens : c = '('
    · subst opens
      obtain ⟨outer', buffer', same⟩ := ih tail (buffer :: outer) []
      refine ⟨outer', buffer', fun rest => ?_⟩
      rw [← same rest, List.cons_append, onePass_open]
    · have other : c ≠ ')' := by
        rintro rfl
        simp at open_
      obtain ⟨outer', buffer', same⟩ := ih tail outer (buffer ++ [c])
      refine ⟨outer', buffer', fun rest => ?_⟩
      rw [← same rest, List.cons_append, onePass_char value opens other]

/-- Copies of a group may give way to its value before the pass meets them. -/
theorem onePass_substitute {group : Text} (plain : Ungrouped group) {result : Bool} (known : value group = .ok result)
    (outer : List Text) (buffer text : Text) :
    onePass value outer buffer (substitute group result text) = onePass value outer buffer text := by
  have nonempty : parenthesized group ≠ [] := by simp [parenthesized]
  have word := Boolean.ungrouped_word result
  induction text using Text.pieces_induction nonempty generalizing outer buffer with
  | nil => simp [substitute]
  | copy rest ih =>
    have group := (Passes.of_ungrouped plain).parenthesized known
    rw [substitute, Text.replaceAll_append nonempty, Passes.of_ungrouped word, group]
    exact ih outer (buffer ++ Boolean.word result)
  | char c rest absent ih =>
    rw [substitute, Text.replaceAll_cons absent, onePass.eq_def, onePass.eq_def value outer buffer (c :: rest)]
    simp only [substitute] at ih
    -- The same character decides how both passes go on.
    cases outer <;> simp only [ih]

/-- The groups of a text come to what one pass comes to. -/
theorem outcome_reduceGroups (value : Text → Traced Bool) (depth : Nat) {text : Text} (grouped : WellGrouped text) :
    (reduceGroups value depth text).outcome = onePass (fun group => (value group).outcome) [] [] text := by
  induction opens : text.count '(' using Nat.strongRecOn generalizing text with
  | _ n ih =>
    by_cases mem : '(' ∈ text
    · obtain ⟨front, inner, back, rfl, open_, plain, found⟩ := grouped.exists_first_group mem
      obtain ⟨outer, buffer, same⟩ := exists_onePass_append (fun group => (value group).outcome) open_ [] []
      rw [outcome_reduceGroups_of_group value depth found, same, (Passes.of_ungrouped plain).onePass_parenthesized]
      cases known : (value inner).outcome with
      | error error => rfl
      | ok result =>
        have fewer := count_substitute_lt found result
        have next := ih _ (opens ▸ fewer) (grouped.substitute plain result) rfl
        have word := Boolean.ungrouped_word result
        change (reduceGroups value depth (substitute inner result _)).outcome = onePass _ outer _ back
        rw [next, substitute_append open_ plain, same, Passes.of_ungrouped word]
        exact onePass_substitute _ plain known outer _ back
    · have plain := grouped.1.ungrouped mem
      rw [reduceGroups_of_ungrouped value depth plain, (Passes.of_ungrouped plain).onePass_eq]
      rfl

namespace Evaluator

/-- An expression without parentheses is evaluated as a group is. -/
theorem evaluate_of_ungrouped (evaluator : Evaluator) (positive : evaluator.config.maxDepth ≠ 0) {text : Text}
    (plain : Ungrouped text) (notBlank : ¬ Text.IsBlank text) :
    evaluator.evaluate text = evaluator.ungroupedValue text := by
  obtain ⟨levels, limit⟩ := exists_levels positive
  rw [evaluate_of_not_isBlank evaluator notBlank, ungroupedValue, limit, reduce, reduceGroups_of_ungrouped _ _ plain]
  rfl

/-- An expression whose parentheses match, with something between them, has the value that one pass with a stack
    finds, or the error that the pass stops at. -/
theorem evaluate_eq_evaluateOnePass (evaluator : Evaluator) (positive : evaluator.config.maxDepth ≠ 0)
    {expression : Text} (grouped : WellGrouped expression) :
    evaluator.evaluate expression = evaluator.evaluateOnePass expression := by
  obtain ⟨levels, limit⟩ := exists_levels positive
  by_cases blank : Text.IsBlank expression
  · simp [evaluate, trace, evaluateOnePass, blank]
  · rw [evaluate_of_not_isBlank evaluator blank, evaluateOnePass, if_neg blank, limit, reduce,
      outcome_reduceGroups _ _ grouped]
    unfold ungroupedValue
    simp [limit]

/-- Parentheses in a string are read as all others are. -/
theorem evaluate_eq_evaluateOnePass_quoted :
    let expression := "!(1<2)||((1<2)&&\"(1<2)\"!=boom)".toList
    (default : Evaluator).config.maxDepth ≠ 0 ∧ WellGrouped expression ∧
      (default : Evaluator).evaluate expression = (default : Evaluator).evaluateOnePass expression :=
  ⟨by decide, by decide +kernel, evaluate_eq_evaluateOnePass default (by decide) (by decide +kernel)⟩

end Evaluator
end Verdict
