import Verdict.Proofs.Group.Accepted

/-!
# White space within an expression

White space may be put around an expression, behind any of its opening parentheses and before any of its closing ones
without changing the value. Copies of a group need not stay copies of each other: the pass, which evaluates each group
where it stands, has the same values on both expressions at every step, and the texts that it keeps differ only in
white space before them (`onePass_spaced`).
-/
namespace Verdict

/-- The second text is the first with white space behind any opening and before any closing parentheses. -/
inductive Spaced : Text → Text → Prop where
  | nil : Spaced [] []
  | char {c : Char} {text spaced : Text} (notOpen : c ≠ '(') (notClose : c ≠ ')') (rest : Spaced text spaced) :
    Spaced (c :: text) (c :: spaced)
  | opening {space text spaced : Text} (blank : Text.IsBlank space) (rest : Spaced text spaced) :
    Spaced ('(' :: text) ('(' :: (space ++ spaced))
  | closing {space text spaced : Text} (blank : Text.IsBlank space) (rest : Spaced text spaced) :
    Spaced (')' :: text) (space ++ ')' :: spaced)

/-- The second text is the first with white space around it too. -/
def Padded (text padded : Text) : Prop :=
  ∃ before spaced after, Text.IsBlank before ∧ Spaced text spaced ∧ Text.IsBlank after ∧
    padded = before ++ spaced ++ after

theorem Text.IsBlank.balanced {text : Text} (blank : IsBlank text) : Balanced text :=
  blank.unmarked.ungrouped.balanced

namespace Spaced

variable {text spaced : Text}

theorem append {text' spaced' : Text} (first : Spaced text spaced) (second : Spaced text' spaced') :
    Spaced (text ++ text') (spaced ++ spaced') := by
  induction first with
  | nil => exact second
  | char notOpen notClose _ ih => exact ih.char notOpen notClose
  | opening blank _ ih => simpa using ih.opening blank
  | closing blank _ ih => simpa using ih.closing blank

theorem of_ungrouped (plain : Ungrouped text) : Spaced text text := by
  induction text with
  | nil => exact .nil
  | cons c text ih =>
    have tail : Ungrouped text := ⟨fun mem => plain.1 (by simp [mem]), fun mem => plain.2 (by simp [mem])⟩
    exact .char (fun opens => plain.1 (by simp [opens])) (fun closes => plain.2 (by simp [closes])) (ih tail)

/-- A text in parentheses may have white space at both of its ends. -/
theorem parenthesized {before after : Text} (blank : Text.IsBlank before) (inner : Spaced text spaced)
    (blank' : Text.IsBlank after) :
    Spaced (Verdict.parenthesized text) (Verdict.parenthesized (before ++ spaced ++ after)) := by
  have close : Spaced [')'] (after ++ [')']) := .closing blank' .nil
  simpa [Verdict.parenthesized] using (inner.append close).opening blank

/-- White space opens and closes nothing. -/
theorem depthAfter?_eq (padded : Spaced text spaced) (depth : Nat) :
    depthAfter? depth spaced = depthAfter? depth text := by
  induction padded generalizing depth with
  | nil => rfl
  | char notOpen notClose _ ih => simp [depthAfter?, notOpen, notClose, ih]
  | opening blank _ ih => simp [depthAfter?, depthAfter?_append, blank.balanced.depthAfter?_eq, ih]
  | closing blank _ ih => simp [depthAfter?, depthAfter?_append, blank.balanced.depthAfter?_eq, ih]

end Spaced

theorem Padded.balanced_iff {text padded : Text} (spaces : Padded text padded) : Balanced padded ↔ Balanced text := by
  obtain ⟨before, spaced, after, blank, inner, blank', rfl⟩ := spaces
  rw [Verdict.balanced_iff, Verdict.balanced_iff, depthAfter?_append, depthAfter?_append,
    blank.balanced.depthAfter?_eq, Option.bind_some, inner.depthAfter?_eq]
  cases depthAfter? 0 text with
  | none => rfl
  | some last => simp [blank'.balanced.depthAfter?_eq]

/-! ## The pass over both texts -/

/-- White space around a text makes no difference to whether it has a value, and to which. -/
def IgnoresPadding (value : Text → Except EvalError Bool) : Prop :=
  ∀ {before after : Text}, Text.IsBlank before → Text.IsBlank after → ∀ text result,
    value (before ++ text ++ after) = .ok result ↔ value text = .ok result

/-- The second text is the first with white space before it. -/
def Indented (text indented : Text) : Prop :=
  ∃ space, Text.IsBlank space ∧ indented = space ++ text

theorem Indented.append {text indented : Text} (first : Indented text indented) (more : Text) :
    Indented (text ++ more) (indented ++ more) := by
  obtain ⟨space, blank, rfl⟩ := first
  exact ⟨space, blank, List.append_assoc ..⟩

theorem Text.IsBlank.passes {value : Text → Except EvalError Bool} {space : Text} (blank : IsBlank space) :
    Passes value space space :=
  .of_ungrouped blank.unmarked.ungrouped

/-- Two passes, of which the second reads and keeps white space as well, come to the same value. -/
theorem onePass_spaced {value : Text → Except EvalError Bool} (ignores : IgnoresPadding value) {text spaced : Text}
    (padded : Spaced text spaced) {after : Text} (blank : Text.IsBlank after) {outer outer' : List Text}
    (kept : List.Forall₂ Indented outer outer') {buffer buffer' : Text} (read : Indented buffer buffer')
    (closed : (depthAfter? outer.length text).isSome = true) (result : Bool) :
    onePass value outer' buffer' (spaced ++ after) = .ok result ↔ onePass value outer buffer text = .ok result := by
  induction padded generalizing outer outer' buffer buffer' with
  | nil =>
    obtain ⟨space, blank', rfl⟩ := read
    rw [List.nil_append, blank.passes.onePass_eq]
    exact ignores blank' blank buffer result
  | @char c text spaced notOpen notClose _ ih =>
    rw [List.cons_append, onePass_char value notOpen notClose, onePass_char value notOpen notClose]
    exact ih kept (read.append [c]) (by simpa [depthAfter?, notOpen, notClose] using closed)
  | @opening space text spaced blank' _ ih =>
    rw [List.cons_append, onePass_open, onePass_open, List.append_assoc, blank'.passes]
    exact ih (.cons read kept) ⟨space, blank', by simp⟩ (by simpa [depthAfter?] using closed)
  | @closing space text spaced blank' _ ih =>
    cases kept with
    | nil => simp [depthAfter?] at closed
    | @cons before before' others others' first kept =>
      obtain ⟨space', blank'', rfl⟩ := read
      have same := ignores blank'' blank' buffer
      have closed : (depthAfter? others.length text).isSome = true := by simpa [depthAfter?] using closed
      rw [List.append_assoc, blank'.passes, List.cons_append, onePass_close, onePass_close]
      -- White space on both sides is left of the group, and the word for its value has none.
      cases known : value buffer with
      | ok word =>
        rw [(same word).mpr known]
        exact ih kept (first.append _) closed
      | error error =>
        cases other : value (space' ++ buffer ++ space) with
        | ok word => simp [(same word).mp other] at known
        | error error' => simp [Except.bind]

namespace Evaluator

variable (evaluator : Evaluator)

theorem ignoresPadding_ungroupedValue : IgnoresPadding evaluator.ungroupedValue := by
  intro before after blank blank' text result
  have trimmed : Text.trim (before ++ text ++ after) = Text.trim text := by
    rw [Text.trim_of_isBlank_right blank', Text.trim_of_isBlank_left blank]
  unfold ungroupedValue
  rw [← (ungrouped_trim _ _ _ (before ++ text ++ after)).value, trimmed, (ungrouped_trim _ _ _ text).value]

/-- White space around an expression, behind its opening parentheses and before its closing ones makes no difference
    to its value. -/
theorem evaluate_eq_ok_iff_of_padded (positive : evaluator.config.maxDepth ≠ 0) {expression padded : Text}
    (spaces : Padded expression padded) (value : Bool) :
    evaluator.evaluate expression = .ok value ↔ evaluator.evaluate padded = .ok value := by
  rw [evaluate_eq_ok_iff_onePass evaluator positive, evaluate_eq_ok_iff_onePass evaluator positive,
    spaces.balanced_iff]
  refine and_congr_right fun balanced => ?_
  obtain ⟨before, spaced, after, blank, inner, blank', rfl⟩ := spaces
  have closed : (depthAfter? 0 expression).isSome = true := by simp [balanced.depthAfter?_eq]
  have same := onePass_spaced evaluator.ignoresPadding_ungroupedValue inner blank' .nil
    (⟨before, blank, by simp⟩ : Indented [] before) closed value
  rw [List.append_assoc, blank.passes, List.nil_append]
  exact same.symm

/-- The second copy of the group stands in a string, and only the first one is padded. -/
theorem evaluate_eq_ok_iff_of_padded_copied :
    let expression := "(1<2) && (\"x(1<2)\" == \"xtrue\")".toList
    let padded := " (\t1<2) && (\"x(1<2)\" == \"xtrue\"\n)".toList
    Padded expression padded ∧ (default : Evaluator).evaluate padded = .ok true := by
  intro expression padded
  let group := "1<2".toList
  let joint := " && ".toList
  let quote := "\"x".toList
  let equal := "\" == \"xtrue\"".toList
  have shape : expression =
      parenthesized group ++ (joint ++ parenthesized (quote ++ (parenthesized group ++ equal))) := by decide +kernel
  have shape' : padded = [' '] ++ (parenthesized (['\t'] ++ group ++ []) ++
      (joint ++ parenthesized ([] ++ (quote ++ (parenthesized group ++ equal)) ++ ['\n']))) ++ [] := by decide +kernel
  have inner : Spaced group group := .of_ungrouped (by decide)
  have between : Spaced joint joint := .of_ungrouped (by decide)
  have string : Spaced (quote ++ (parenthesized group ++ equal)) (quote ++ (parenthesized group ++ equal)) :=
    (Spaced.of_ungrouped (by decide)).append
      ((inner.parenthesized Text.isBlank_nil Text.isBlank_nil).append (.of_ungrouped (by decide)))
  have spaces : Padded expression padded := by
    rw [shape, shape']
    exact ⟨[' '], _, [], Text.isBlank_space, (inner.parenthesized (by decide) Text.isBlank_nil).append
      (between.append (string.parenthesized Text.isBlank_nil (by decide))), Text.isBlank_nil, rfl⟩
  have known : (default : Evaluator).evaluate expression = .ok true := by decide +kernel
  exact ⟨spaces, (evaluate_eq_ok_iff_of_padded default (by decide) spaces true).mp known⟩

end Evaluator
end Verdict
