import Verdict.Evaluation.Replay
import Verdict.Proofs.Literals

/-!
# Expressions with a value

An expression without parentheses that has a value is nothing but literals with operators between them, and it was
split at every one of these operators. This does not depend on the operators that the search passed over: whatever it
split at, both sides have values of their own.
-/
namespace Verdict

/-- The text is literals with so many operators between them. -/
def IsJoined (text : Text) (count : Nat) : Prop :=
  ∃ first rest, text = Operator.join first rest ∧ IsLeaf first ∧ (∀ joined ∈ rest, IsLeaf joined.2) ∧
    rest.length = count

theorem IsLeaf.isJoined {text : Text} (leaf : IsLeaf text) : IsJoined text 0 :=
  ⟨text, [], rfl, leaf, by simp, rfl⟩

theorem IsJoined.join {left right : Text} {m n : Nat} (first : IsJoined left m) (op : Operator)
    (second : IsJoined right n) : IsJoined (left ++ op.symbol ++ right) (m + n + 1) := by
  obtain ⟨a, before, rfl, leafA, leaves, rfl⟩ := first
  obtain ⟨b, after, rfl, leafB, others, rfl⟩ := second
  refine ⟨a, before ++ (op, b) :: after, ?_, leafA, ?_, ?_⟩
  · rw [Operator.join_append, List.append_assoc]
  · intro joined mem
    rcases List.mem_append.mp mem with mem | mem
    · exact leaves joined mem
    · rcases List.mem_cons.mp mem with rfl | mem
      · exact leafB
      · exact others joined mem
  · simp
    omega

/-! ## Texts that are not split -/

theorem isLeaf_of_number {text : Text} {value : Decimal} (read : number (Text.trim text) = .ok value) :
    IsLeaf text := by
  unfold number at read
  split at read
  · rename_i known
    rw [Decimal.ofText?_trim] at known
    exact .of_number known
  · simp at read

theorem isLiteral_of_ofText {text : Text} {value : Bool} (read : Boolean.ofText (Text.trim text) = .ok value) :
    IsLiteral (Text.trim text) := by
  rw [Boolean.ofText_trim] at read
  exact (IsLeaf.of_truth read).literal

/-- Operands that are compared as what they are, are literals. -/
theorem isLiteral_of_equals {mode : Comparison} {expression left right : Text} {op : Operator} {value : Bool}
    (known : Operand.equals mode expression op (Operand.ofText (Text.trim left)) (Operand.ofText (Text.trim right)) =
      .ok value) : IsLiteral (Text.trim left) ∧ IsLiteral (Text.trim right) := by
  rcases Operand.ofText_cases (Text.trim left) with ⟨quoted, a⟩ | ⟨x, number, a⟩ | a
  · rcases Operand.ofText_cases (Text.trim right) with ⟨quoted', b⟩ | ⟨y, _, b⟩ | b
    · exact ⟨.inr (.inr quoted), .inr (.inr quoted')⟩
    · simp [a, b, Operand.equals] at known
    · simp [a, b, Operand.equals] at known
  · rcases Operand.ofText_cases (Text.trim right) with ⟨_, b⟩ | ⟨y, number', b⟩ | b
    · simp [a, b, Operand.equals] at known
    · exact ⟨.inr (.inl (by simp [number])), .inr (.inl (by simp [number']))⟩
    · simp [a, b, Operand.equals] at known
  · rcases Operand.ofText_cases (Text.trim right) with ⟨_, b⟩ | ⟨y, _, b⟩ | b
    · simp [a, b, Operand.equals] at known
    · simp [a, b, Operand.equals] at known
    · rw [a, b] at known
      cases first : Boolean.ofText (Text.trim left) with
      | error error => simp [Operand.equals, first, bind, Except.bind] at known
      | ok v =>
        cases second : Boolean.ofText (Text.trim right) with
        | error error => simp [Operand.equals, first, second, bind, Except.bind] at known
        | ok w => exact ⟨isLiteral_of_ofText first, isLiteral_of_ofText second⟩

/-! ## Texts that are split -/

/-- What is known of the operands one level deeper. -/
def Accepting (descend : Text → Traced Bool) : Prop :=
  ∀ text value, Ungrouped text → (descend (Text.trim text)).outcome = .ok value →
    IsJoined text (splits (descend (Text.trim text)).events).length

variable {mode : Comparison} {descend : Text → Traced Bool} {text left right : Text} {op : Operator} {value : Bool}

theorem isJoined_of_operandValue (accepting : Accepting descend) (plain : Ungrouped text)
    (known : (operandValue descend (Text.trim text)).outcome = .ok value) :
    IsJoined text (splits (operandValue descend (Text.trim text)).events).length := by
  unfold operandValue at known ⊢
  split at known
  · rename_i nested
    rw [if_pos nested]
    exact accepting text value plain known
  · rename_i leaf
    rw [if_neg leaf]
    have read : Boolean.ofText text = .ok value := by rw [← Boolean.ofText_trim]; exact known
    exact (IsLeaf.of_truth read).isJoined

theorem isLeaf_of_not_nested (literal : IsLiteral (Text.trim text))
    (leaf : ¬ Operator.occursIn (Text.trim text) = true) : IsLeaf text :=
  ⟨literal, fun inside => leaf ((Operator.occursIn_trim_eq_true_iff text).mpr inside)⟩

/-- Both sides of a split with a value are literals with operators between them. -/
def BothJoined (left right : Text) (events : List Event) : Prop :=
  ∃ m n, IsJoined left m ∧ IsJoined right n ∧ (splits events).length = m + n

theorem bothJoined_of_bind {first second : Traced Bool} {combine : Bool → Bool → Bool}
    (a : ∀ value, first.outcome = .ok value → IsJoined left (splits first.events).length)
    (b : ∀ value, second.outcome = .ok value → IsJoined right (splits second.events).length)
    (known : (first >>= fun v => second >>= fun w => pure (combine v w)).outcome = .ok value) :
    BothJoined left right (first >>= fun v => second >>= fun w => pure (combine v w)).events := by
  obtain ⟨v, one, rest, events⟩ := Traced.exists_of_bind_eq_ok known
  obtain ⟨w, two, _, more⟩ := Traced.exists_of_bind_eq_ok rest
  refine ⟨_, _, a v one, b w two, ?_⟩
  have silent : (pure (combine v w) : Traced Bool).events = [] := rfl
  rw [events, more, silent, List.append_nil, splits_append, List.length_append]

theorem bothJoined_of_equality (accepting : Accepting descend) (plainLeft : Ungrouped left)
    (plainRight : Ungrouped right)
    (known : (equality mode descend text ⟨op, Text.trim left, Text.trim right⟩).outcome = .ok value) :
    BothJoined left right (equality mode descend text ⟨op, Text.trim left, Text.trim right⟩).events := by
  unfold equality at known ⊢
  split at known
  · rename_i nested
    rw [if_pos nested]
    exact bothJoined_of_bind (fun _ => isJoined_of_operandValue accepting plainLeft)
      (fun _ => isJoined_of_operandValue accepting plainRight) known
  · rename_i leaves
    rw [if_neg leaves]
    simp only [Bool.or_eq_true, not_or] at leaves
    obtain ⟨a, b⟩ := isLiteral_of_equals known
    exact ⟨0, 0, (isLeaf_of_not_nested a leaves.1).isJoined, (isLeaf_of_not_nested b leaves.2).isJoined, rfl⟩

theorem bothJoined_of_relation
    (known : relation text ⟨op, Text.trim left, Text.trim right⟩ = .ok value) : BothJoined left right [] := by
  unfold relation at known
  split at known
  · simp at known
  · cases first : number (Text.trim left) with
    | error error => simp [first, bind, Except.bind] at known
    | ok x =>
      cases second : number (Text.trim right) with
      | error error => simp [first, second, bind, Except.bind] at known
      | ok y => exact ⟨0, 0, (isLeaf_of_number first).isJoined, (isLeaf_of_number second).isJoined, rfl⟩

theorem bothJoined_of_splitValue (accepting : Accepting descend) (plainLeft : Ungrouped left)
    (plainRight : Ungrouped right)
    (known : (splitValue mode descend text ⟨op, Text.trim left, Text.trim right⟩).outcome = .ok value) :
    BothJoined left right (splitValue mode descend text ⟨op, Text.trim left, Text.trim right⟩).events := by
  unfold splitValue at known ⊢
  cases op with
  | or | and =>
    exact bothJoined_of_bind (fun v => accepting left v plainLeft) (fun v => accepting right v plainRight) known
  | eq => exact bothJoined_of_equality accepting plainLeft plainRight known
  | ne =>
    obtain ⟨equal, one, _, events⟩ := Traced.exists_of_bind_eq_ok known
    obtain ⟨m, n, a, b, total⟩ := bothJoined_of_equality accepting plainLeft plainRight one
    refine ⟨m, n, a, b, ?_⟩
    have silent : (pure (!equal) : Traced Bool).events = [] := rfl
    rw [events, silent, List.append_nil, total]
  | ge | le | gt | lt => exact bothJoined_of_relation known

/-- One level: a text that has a value is a literal, or falls into two sides that have values. -/
theorem isJoined_of_ungrouped {depth : Nat} (accepting : Accepting descend) (plain : Ungrouped text)
    (known : (ungrouped mode depth descend text).outcome = .ok value) :
    IsJoined text (splits (ungrouped mode depth descend text).events).length := by
  unfold ungrouped at known ⊢
  cases found : Split.first? text with
  | none =>
    simp only [found] at known ⊢
    exact (IsLeaf.of_truth known).isJoined
  | some split =>
    obtain ⟨op, _, _⟩ := split
    obtain ⟨_, _, _, left, right, cut, rfl, rfl⟩ := Split.at?_eq_some_iff.mp (Split.at?_of_first? found)
    obtain rfl := Text.eq_of_cut?_eq_some cut
    simp only [found] at known ⊢
    obtain ⟨plainFront, plainRight⟩ := ungrouped_append_iff.mp plain
    have plainLeft := (ungrouped_append_iff.mp plainFront).1
    rw [Traced.report_bind] at known ⊢
    obtain ⟨m, n, a, b, total⟩ := bothJoined_of_splitValue accepting plainLeft plainRight known
    have whole := a.join op b
    rw [← total] at whole
    exact whole

/-- A text without parentheses that has a value is literals with operators between them, as many as it was split at. -/
theorem isJoined_of_reduce {limit levels depth : Nat} (plain : Ungrouped text)
    (known : (reduce mode limit levels depth text).outcome = .ok value) :
    IsJoined text (splits (reduce mode limit levels depth text).events).length := by
  induction levels generalizing depth text value with
  | zero => simp [reduce] at known
  | succ levels ih =>
    rw [reduce, reduceGroups_of_ungrouped _ _ plain] at known ⊢
    refine isJoined_of_ungrouped ?_ plain known
    -- An operand is evaluated without the white space around it, which makes no difference.
    intro operand value plain known
    have same := reduce_trim mode limit levels (depth + 1) plain
    rw [same.events]
    exact ih plain ((same.value value).mp known)

/-- Literals with operators between them are the pieces between the operators. -/
theorem IsJoined.pieces {count : Nat} (joined : IsJoined text count) :
    (∀ piece ∈ Operator.pieces text, IsLeaf piece) ∧ (Operator.pieces text).length = count + 1 := by
  obtain ⟨first, rest, rfl, leaf, leaves, rfl⟩ := joined
  rw [Operator.pieces_join leaf.clear fun joined mem => (leaves joined mem).clear]
  refine ⟨fun piece mem => ?_, by simp⟩
  rcases List.mem_cons.mp mem with rfl | mem
  · exact leaf
  · obtain ⟨joined, listed, rfl⟩ := List.mem_map.mp mem
    exact leaves joined listed

namespace Evaluator

/-- An expression without parentheses that has a value falls into literals once it is cut at every operator, and it
    was split as often as it is cut. -/
theorem pieces_of_evaluate_eq_ok (evaluator : Evaluator) {expression : Text} {value : Bool}
    (plain : Ungrouped expression) (accepted : evaluator.evaluate expression = .ok value) :
    (∀ piece ∈ Operator.pieces expression,
      ¬ Text.IsBlank piece ∧ ¬ Operator.OccursIn piece ∧ IsLiteral (Text.trim piece)) ∧
    (Operator.pieces expression).length = (splits (evaluator.trace expression).events).length + 1 := by
  have notBlank : ¬ Text.IsBlank expression := by
    intro blank
    simp [evaluate, trace, blank] at accepted
  have known := accepted
  rw [evaluate_of_not_isBlank evaluator notBlank] at known
  have events : (evaluator.trace expression).events = (reduce evaluator.config.comparison
      evaluator.config.maxDepth.toNat evaluator.config.maxDepth.toNat 1 expression).events := by
    rw [trace, if_neg notBlank]
    exact Traced.events_onError_of_ok known _
  obtain ⟨leaves, count⟩ := (isJoined_of_reduce plain known).pieces
  rw [events]
  refine ⟨fun piece mem => ?_, count⟩
  have leaf := leaves piece mem
  exact ⟨leaf.not_isBlank, leaf.free, leaf.literal⟩

/-- Three cuts, and three splits. -/
theorem pieces_of_evaluate_order_and_equality :
    let expression := "5 >= 4 && !true == false".toList
    (default : Evaluator).evaluate expression = .ok true ∧ (Operator.pieces expression).length = 4 ∧
      (splits ((default : Evaluator).trace expression).events).length = 3 := by
  have plain : Ungrouped "5 >= 4 && !true == false".toList := by decide +kernel
  have accepted : (default : Evaluator).evaluate "5 >= 4 && !true == false".toList = .ok true := by decide +kernel
  have cuts : (Operator.pieces "5 >= 4 && !true == false".toList).length = 4 := by decide +kernel
  have pieces := (pieces_of_evaluate_eq_ok default plain accepted).2
  exact ⟨accepted, cuts, by omega⟩

end Evaluator
end Verdict
