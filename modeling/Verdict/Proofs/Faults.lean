import Verdict.Proofs.Group.Errors

/-!
# The text at fault

An error shows a text that stood in the expression by the time it occurred, once the groups before it had given way to
their values, and what the error says of this text is so (`isAbout_of_evaluate`). Each step fails with errors about its
own text, and a step is taken in a part of the text of the step before it.
-/
namespace Verdict

/-! ## What errors say -/

/-- The text that an error shows, if it shows one. -/
def EvalError.fault? : EvalError → Option Text
  | .emptyInput => none
  | .emptyValue text | .unbalancedGroup text _ | .emptyGroup text | .invalidBoolean text
  | .typeMismatch text _ _ _ | .numericConversion text | .limitExceeded _ text => some text

/-- What an error says, apart from errors about parentheses, is so. `limit` is the limit that there is. -/
def EvalError.IsTruthful (limit : Nat) : EvalError → Prop
  | .emptyInput | .unbalancedGroup .. | .emptyGroup .. => True
  -- Nothing but negations, or nothing at all.
  | .emptyValue text =>
    (∀ c ∈ text, c = '!' ∨ Text.isWhitespace c = true) ∧ (text = [] ∨ text.head? = some '!')
  -- Something without negations in front that is not a word, with letters in either case.
  | .invalidBoolean text =>
    text ≠ [] ∧ (∀ c ∈ text.head?, c ≠ '!' ∧ Text.isWhitespace c = false) ∧
      ∀ value, text.map Char.toLower ≠ Boolean.word value
  -- Which kinds there are depends on what the operator goes with.
  | .typeMismatch text op left right =>
    op.symbol <:+: text ∧ (op.isRelational = true → left = .bool ∧ right = .unknown) ∧
      (op.isRelational = false → OperandKind.Mismatched left right)
  | .numericConversion text => ¬ Operator.OccursIn text ∧ Decimal.ofText? text = none
  | .limitExceeded exceeded _ => exceeded = limit

/-- What the error says is so, and the text that it shows stands in this one. -/
structure EvalError.IsAbout (limit : Nat) (whole : Text) (e : EvalError) : Prop where
  truthful : e.IsTruthful limit
  inside : ∀ text, e.fault? = some text → text <:+: whole

namespace EvalError.IsAbout

variable {limit : Nat} {whole part : Text} {e : EvalError}

theorem of_fault (truthful : e.IsTruthful limit) (shown : e.fault? = some part) (occurs : part <:+: whole) :
    e.IsAbout limit whole := by
  refine ⟨truthful, fun text same => ?_⟩
  obtain rfl := Option.some.inj (shown.symm.trans same)
  exact occurs

theorem of_occurs (about : e.IsAbout limit part) (occurs : part <:+: whole) : e.IsAbout limit whole :=
  ⟨about.truthful, fun text shown => (about.inside text shown).trans occurs⟩

end EvalError.IsAbout

/-! ## The errors of the steps -/

namespace Boolean

variable {count : Nat} {front text : Text} {e : EvalError}

theorem Negations.eq_nil_or_head? (negated : Negations count front) : front = [] ∨ front.head? = some '!' := by
  cases negated with
  | none => exact .inl rfl
  | more _ _ => exact .inr rfl

/-- What is left behind the negations of a trimmed text does not begin with white space. -/
theorem Settled.head? (settled : Settled count text) (negated : Negations count front)
    {whole : Text} (trimmed : Text.trim whole = front ++ text) :
    ∀ c ∈ text.head?, c ≠ '!' ∧ Text.isWhitespace c = false := by
  intro c first
  obtain ⟨other, black⟩ := settled c first
  refine ⟨other, ?_⟩
  cases negated with
  | none =>
    apply Text.isWhitespace_of_head?_trim
    rw [trimmed]
    exact first
  | more _ _ => exact black (Nat.succ_pos _)

theorem isAbout_of_ofText {limit : Nat} (failed : ofText text = .error e) : e.IsAbout limit text := by
  obtain ⟨count, front, rest, negated, whole, settled, ⟨rfl, rfl⟩ | ⟨nonempty, other, rfl⟩⟩ := ofText_eq_error failed
  · rw [List.append_nil] at whole
    refine .of_fault ?_ rfl (Text.trim_occurs text)
    rw [whole]
    exact ⟨negated.eq_or_isWhitespace, negated.eq_nil_or_head?⟩
  · refine .of_fault ⟨nonempty, settled.head? negated whole, fun value spelled => ?_⟩ rfl ?_
    · exact absurd (ofWord?_eq_some_iff.mpr spelled) (by simp [other])
    · have behind : rest <:+: Text.trim text := ⟨front, [], by simp [whole]⟩
      exact behind.trans (Text.trim_occurs text)

end Boolean

theorem Operand.eq_of_ofText {text bare : Text} (read : ofText text = .bare bare) : bare = text := by
  rcases ofText_cases text with ⟨_, quoted⟩ | ⟨value, _, decimal⟩ | same
  · simp [quoted] at read
  · simp [decimal] at read
  · simpa [same, eq_comm] using read

section

variable {limit : Nat} {text : Text} {split : Split} {e : EvalError} (found : Split.first? text = some split)
include found

theorem isAbout_of_relation (relational : split.operator.isRelational = true)
    (failed : relation text split = .error e) : e.IsAbout limit text := by
  obtain ⟨left, right⟩ := Split.sides_occur found
  rcases relation_eq_error failed with rfl | ⟨side, rfl | rfl, free, unread, rfl⟩
  · exact .of_fault ⟨Split.symbol_occurs found, fun _ => ⟨rfl, rfl⟩, by simp [relational]⟩ rfl List.infix_rfl
  · exact .of_fault ⟨free, unread⟩ rfl left
  · exact .of_fault ⟨free, unread⟩ rfl right

theorem isAbout_of_equals {mode : Comparison} (truthful : split.operator.isRelational = false)
    (failed : Operand.equals mode text split.operator (Operand.ofText split.left) (Operand.ofText split.right) =
      .error e) : e.IsAbout limit text := by
  obtain ⟨left, right⟩ := Split.sides_occur found
  rcases Operand.equals_eq_error failed with ⟨a, b, mismatched, rfl⟩ | ⟨bare, read | read, truth⟩
  · exact .of_fault ⟨Split.symbol_occurs found, by simp [truthful], fun _ => mismatched⟩ rfl List.infix_rfl
  · obtain rfl := Operand.eq_of_ofText read
    exact (Boolean.isAbout_of_ofText truth).of_occurs left
  · obtain rfl := Operand.eq_of_ofText read
    exact (Boolean.isAbout_of_ofText truth).of_occurs right

end

theorem isAbout_of_search {limit : Nat} {text : Text} {e : EvalError} (failed : innermostGroup? text = .error e) :
    e.IsAbout limit text := by
  have here := search text
  rw [failed] at here
  cases here with
  | opened _ | closed _ => exact .of_fault trivial rfl List.infix_rfl
  | early _ _ => exact .of_fault trivial rfl (List.takeWhile_prefix _).isInfix
  | @pair front back shape _ =>
    unfold emptyPairError
    dsimp only
    split
    · exact .of_fault trivial rfl List.infix_rfl
    · refine .of_fault trivial rfl ?_
      obtain ⟨rest, following⟩ := List.takeWhile_prefix (l := back) (· ≠ '(')
      refine ⟨front ++ ['('], rest, ?_⟩
      simp only [shape, emptyPair, List.append_assoc, List.cons_append, List.nil_append, following]

/-! ## The whole evaluation -/

/-- Whatever is evaluated on any level is a part of the text. -/
theorem upholds_isAbout (mode : Comparison) (limit : Nat) (whole : Text) :
    Upholds mode limit (fun _ _ text => Ungrouped text ∧ text <:+: whole) (fun _ => True)
      (EvalError.IsAbout limit whole) where
  plain _ _ _ here := here.1
  sides _ _ _ _ here found _ := by
    obtain ⟨plainLeft, plainRight⟩ := Split.ungrouped_sides here.1 found
    obtain ⟨left, right⟩ := Split.sides_occur found
    exact ⟨⟨plainLeft, left.trans here.2⟩, plainRight, right.trans here.2⟩
  split _ _ _ _ _ _ := trivial
  truth _ _ _ _ here failed := (Boolean.isAbout_of_ofText failed).of_occurs here.2
  equals _ _ _ _ _ here found truthful failed := (isAbout_of_equals found truthful failed).of_occurs here.2
  relation _ _ _ _ _ here found relational failed := (isAbout_of_relation found relational failed).of_occurs here.2
  limit _ _ here := .of_fault rfl rfl here.2

namespace Evaluator

variable (evaluator : Evaluator) {expression text : Text} {error : EvalError}

theorem isAbout_of_ungroupedValue (plain : Ungrouped text) (failed : evaluator.ungroupedValue text = .error error) :
    error.IsAbout evaluator.config.maxDepth.toNat text := by
  have upholds := upholds_isAbout evaluator.config.comparison evaluator.config.maxDepth.toNat text
  exact (upholds.ungrouped (evaluator.config.maxDepth.toNat - 1) 1 (fun _ here => upholds.reduce _ 2 here)
    ⟨plain, List.infix_rfl⟩).errors error failed

section

variable (positive : evaluator.config.maxDepth ≠ 0)
include positive

/-- An error is about what is left of the expression by then. -/
theorem isAbout_of_evaluate (failed : evaluator.evaluate expression = .error error) :
    error.IsAbout evaluator.config.maxDepth.toNat
      (replay expression (reducedGroups (evaluator.trace expression).events)) := by
  by_cases blank : Text.IsBlank expression
  · rw [evaluate, trace_of_isBlank evaluator blank] at failed
    obtain rfl := Except.error.inj failed
    exact ⟨trivial, by simp [EvalError.fault?]⟩
  · obtain ⟨value, known, _, ends⟩ := exists_run evaluator positive blank
    rw [failed] at ends
    generalize outcome : Except.error error = result at ends
    cases ends with
    | refused found =>
      obtain rfl := Except.error.inj outcome
      exact isAbout_of_search found
    | failed found refused =>
      obtain rfl := Except.error.inj outcome
      rw [known] at refused
      exact (isAbout_of_ungroupedValue evaluator (plain_of_found found).1 refused).of_occurs (group_occurs found)
    | plain plain =>
      rw [known] at outcome
      exact isAbout_of_ungroupedValue evaluator plain outcome.symm

/-- No groups are reduced where there are none. -/
theorem reducedGroups_of_ungrouped (plain : Ungrouped expression) :
    reducedGroups (evaluator.trace expression).events = [] := by
  by_cases blank : Text.IsBlank expression
  · rw [trace_of_isBlank evaluator blank]
    rfl
  · obtain ⟨_, _, reduction, _⟩ := exists_run evaluator positive blank
    generalize reducedGroups (evaluator.trace expression).events = groups at reduction
    cases reduction with
    | nil => rfl
    | cons found _ _ => exact absurd ((innermostGroup?_of_ungrouped plain).symm.trans found) (by simp)

/-- What an error says is so. The text that it shows stands in what is left of the expression once the groups that have
    been reduced until then have given way to their values, and in the expression itself if there are no groups. -/
theorem fault_of_evaluate_eq_error (failed : evaluator.evaluate expression = .error error) :
    error.IsTruthful evaluator.config.maxDepth.toNat ∧
      (∀ text, error.fault? = some text →
        text <:+: replay expression (reducedGroups (evaluator.trace expression).events)) ∧
      (Ungrouped expression → ∀ text, error.fault? = some text → text <:+: expression) := by
  have about := isAbout_of_evaluate evaluator positive failed
  refine ⟨about.truthful, about.inside, fun plain text shown => ?_⟩
  have inside := about.inside text shown
  rwa [reducedGroups_of_ungrouped evaluator positive plain] at inside

end

/-- The text at fault is not in the expression, but it is once the first group has given way to its value. -/
theorem fault_of_evaluate_eq_error_rewritten :
    let expression := "(1<2) && (\"a\" == (1<2))".toList
    let fault := "\"a\" == true".toList
    (default : Evaluator).evaluate expression = .error (.typeMismatch fault .eq .string .unknown) ∧
      ¬ fault <:+: expression ∧ fault <:+: replay expression [("1<2".toList, true)] := by
  intro expression fault
  have failed : (default : Evaluator).evaluate expression = .error (.typeMismatch fault .eq .string .unknown) := by
    decide +kernel
  have groups : reducedGroups ((default : Evaluator).trace expression).events = [("1<2".toList, true)] := by
    decide +kernel
  obtain ⟨_, inside, _⟩ := fault_of_evaluate_eq_error default (by decide) failed
  rw [groups] at inside
  exact ⟨failed, by decide +kernel, inside fault rfl⟩

end Evaluator
end Verdict
