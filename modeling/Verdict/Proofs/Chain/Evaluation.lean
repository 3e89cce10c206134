import Verdict.Proofs.Chain.Operands
import Verdict.Proofs.Chain.Precedence

/-!
# Chains have their conventional value

The evaluation splits a chain at the first of the operators that bind least in it, which is where the conventional
value may be cut as well. Every split leaves fewer operands on both sides, so a chain needs no more levels than it has
operands.
-/
namespace Verdict.Chain

/-- An operand with the white space around it. -/
structure Piece where
  text : Text
  value : Bool
  reads : Reads text value

/-- Operands with operators between them. -/
def joinedText (first : Piece) (rest : List (Operator × Piece)) : Text :=
  Operator.join first.text (rest.map (Prod.map id Piece.text))

/-- The conventional value of operands with operators between them. -/
def joinedValue (first : Piece) (rest : List (Operator × Piece)) : Bool :=
  conventional first.value (rest.map (Prod.map id Piece.value))

@[simp] theorem joinedText_nil (first : Piece) : joinedText first [] = first.text := rfl

@[simp] theorem joinedValue_nil (first : Piece) : joinedValue first [] = first.value := by
  simp [joinedValue, conventional, Reading.finish]

/-- The operators join truth values. -/
def Logical (rest : List (Operator × Piece)) : Prop :=
  ∀ joined ∈ rest, joined.1.isRelational = false

variable {first piece : Piece} {before after rest : List (Operator × Piece)} {op : Operator}

theorem Logical.sides (logical : Logical (before ++ (op, piece) :: after)) :
    Logical before ∧ op.isRelational = false ∧ Logical after :=
  ⟨fun joined mem => logical joined (by simp [mem]), logical (op, piece) (by simp),
    fun joined mem => logical joined (by simp [mem])⟩

theorem ungrouped_joinedText (first : Piece) (rest : List (Operator × Piece)) : Ungrouped (joinedText first rest) := by
  unfold joinedText
  induction rest generalizing first with
  | nil => exact first.reads.ungrouped
  | cons head rest ih =>
    rw [List.map_cons, Operator.join.eq_def]
    exact ungrouped_append_iff.mpr
      ⟨first.reads.ungrouped, ungrouped_append_iff.mpr ⟨head.1.ungrouped_symbol, ih head.2⟩⟩

theorem joinedValue_append (logical : op.isRelational = false)
    (without : Without (looser op) (before ++ (op, piece) :: after)) :
    joinedValue first (before ++ (op, piece) :: after) =
      combine op (joinedValue first before) (joinedValue piece after) := by
  have values := without.map Piece.value
  rw [List.map_append, List.map_cons] at values
  rw [joinedValue, List.map_append, List.map_cons]
  exact conventional_append first.value logical values

/-! ## The first split -/

theorem exists_first_of_mem {p : Operator → Prop} {ops : List Operator} (attained : ∃ op ∈ ops, p op) :
    ∃ op, p op ∧ ∀ other ∈ ops.takeWhile (· != op), ¬ p other := by
  induction ops with
  | nil => simp at attained
  | cons head ops ih =>
    by_cases here : p head
    · exact ⟨head, here, by simp⟩
    · obtain ⟨op, there, earlier⟩ := ih (by simpa [here] using attained)
      have differ : head ≠ op := by
        rintro rfl
        exact here there
      refine ⟨op, there, fun other mem => ?_⟩
      rw [List.takeWhile_cons_of_pos (by simpa using differ)] at mem
      rcases List.mem_cons.mp mem with rfl | mem
      · exact here
      · exact earlier other mem

/-- One of the operators that join operands binds least, and it has a first place. -/
theorem exists_loosest (nonempty : rest ≠ []) :
    ∃ op before piece after, rest = before ++ (op, piece) :: after ∧ Without (looser op) rest ∧
      Without [op] before := by
  obtain ⟨head, tail, shape⟩ := List.exists_cons_of_ne_nil nonempty
  have present : ∃ op ∈ Operator.precedence, ∃ joined ∈ rest, joined.1 = op :=
    ⟨head.1, Operator.mem_precedence _, head, by simp [shape], rfl⟩
  obtain ⟨op, ⟨joined, mem, same⟩, least⟩ := exists_first_of_mem present
  have without : Without (looser op) rest := fun other listed less => least other.1 less ⟨other, listed, rfl⟩
  rcases Operator.exists_first_join op rest with absent | ⟨before, piece, after, whole, earlier⟩
  · exact absurd same (absent joined mem)
  · exact ⟨op, before, piece, after, whole, without, by simpa [Without] using earlier⟩

theorem first?_joinedText (logical : op.isRelational = false)
    (without : Without (looser op) (before ++ (op, piece) :: after)) (earlier : Without [op] before) :
    Split.first? (joinedText first (before ++ (op, piece) :: after)) =
      some ⟨op, Text.trim (joinedText first before), Text.trim (joinedText piece after)⟩ := by
  obtain ⟨tighter, order⟩ : ∃ tighter, Operator.precedence = looser op ++ op :: tighter := by
    cases op <;> exact ⟨_, rfl⟩
  have below : ∀ other ∈ op :: looser op, other.isRelational = false := by
    cases op <;> revert logical <;> decide
  have sides : ∀ piece : Piece, Split.Side (op :: looser op) piece.text := fun piece => piece.reads.side below
  have others : ∀ other, other ∉ looser op → other ∈ op :: tighter := by
    intro other apart
    have mem := Operator.mem_precedence other
    rw [order] at mem
    exact (List.mem_append.mp mem).resolve_left apart
  obtain ⟨left, right⟩ := without.sides
  unfold joinedText
  rw [List.map_append, List.map_cons]
  refine Split.first?_join order (sides first) ?_ (sides piece) ?_
  · intro joined mem
    obtain ⟨other, listed, rfl⟩ := List.mem_map.mp mem
    have differ : other.1 ≠ op := by simpa using earlier other listed
    exact ⟨(List.mem_cons.mp (others other.1 (left other listed))).resolve_left differ, sides other.2⟩
  · intro joined mem
    obtain ⟨other, listed, rfl⟩ := List.mem_map.mp mem
    exact ⟨others other.1 (right other listed), sides other.2⟩

/-! ## The value of a split -/

/-- Only a single operand is without operators. -/
theorem ofText_of_not_occursIn (free : ¬ Operator.OccursIn (joinedText first rest)) :
    Boolean.ofText (joinedText first rest) = .ok (joinedValue first rest) := by
  cases rest with
  | nil =>
    rw [joinedText_nil, joinedValue_nil]
    exact first.reads.ofText_of_not_occursIn free
  | cons head rest =>
    refine absurd ⟨head.1, first.text, ?_⟩ free
    exact ⟨Operator.join head.2.text (rest.map (Prod.map id Piece.text)), List.append_assoc _ _ _⟩

section

variable (mode : Comparison) (descend : Text → Traced Bool)

variable {descend} {left right : Text} {x y : Bool}

/-- Operands without operators are truth values, and compared as such. -/
theorem outcome_equality_of_operandValue (first : (operandValue descend (Text.trim left)).outcome = .ok x)
    (second : (operandValue descend (Text.trim right)).outcome = .ok y) (text : Text) :
    (equality mode descend text ⟨op, Text.trim left, Text.trim right⟩).outcome = .ok (x == y) := by
  by_cases nested : (Operator.occursIn (Text.trim left) || Operator.occursIn (Text.trim right)) = true
  · rw [equality, if_pos nested, Traced.outcome_bind, first]
    show ((operandValue descend (Text.trim right)) >>= fun value => pure (x == value)).outcome = .ok (x == y)
    rw [Traced.outcome_bind, second]
    rfl
  · obtain ⟨freeLeft, freeRight⟩ := not_or.mp (Bool.or_eq_true _ _ ▸ nested)
    have reads : ∀ {side : Text} {value : Bool}, ¬ Operator.occursIn (Text.trim side) = true →
        (operandValue descend (Text.trim side)).outcome = .ok value → Boolean.ofText side = .ok value := by
      intro side value free known
      rw [operandValue, if_neg free] at known
      exact (Boolean.ofText_trim side).symm.trans known
    have one := reads freeLeft first
    have two := reads freeRight second
    rw [outcome_equality_of_leaves mode descend text (.of_truth one) (.of_truth two), Operand.ofText_of_truth one,
      Operand.ofText_of_truth two, Operand.equals]
    rw [Boolean.ofText_trim, Boolean.ofText_trim, one, two]
    rfl

/-- The text is evaluated to the value as an operand, and read as it if there are no operators in it. -/
structure Known (descend : Text → Traced Bool) (text : Text) (value : Bool) : Prop where
  descends : (descend (Text.trim text)).outcome = .ok value
  reads : ¬ Operator.OccursIn text → Boolean.ofText text = .ok value

theorem Known.outcome_operandValue (known : Known descend left x) :
    (operandValue descend (Text.trim left)).outcome = .ok x := by
  unfold operandValue
  split
  · exact known.descends
  · rename_i free
    rw [Operator.occursIn_trim_eq_true_iff] at free
    rw [Boolean.ofText_trim, known.reads free]
    rfl

/-- An equality has the value of the operator if both sides have values as operands. -/
theorem outcome_splitValue_of_operandValue (equal : op = .eq ∨ op = .ne)
    (first : (operandValue descend (Text.trim left)).outcome = .ok x)
    (second : (operandValue descend (Text.trim right)).outcome = .ok y) (text : Text) :
    (splitValue mode descend text ⟨op, Text.trim left, Text.trim right⟩).outcome = .ok (combine op x y) := by
  rcases equal with rfl | rfl
  · exact outcome_splitValue_eq mode descend text (outcome_equality_of_operandValue mode first second text)
  · exact outcome_splitValue_ne mode descend text (outcome_equality_of_operandValue mode first second text)

/-- "And" and "or" evaluate both sides one level deeper. -/
theorem outcome_splitValue_of_isLogical (logical : op.isLogical = true) (text : Text) :
    (splitValue mode descend text ⟨op, left, right⟩).outcome =
      (descend left).outcome.bind fun a => (descend right).outcome.bind fun b => .ok (combine op a b) := by
  cases op with
  | or | and => simp [splitValue, Traced.outcome_bind, combine]
  | ne | eq | ge | le | gt | lt => simp [Operator.isLogical] at logical

theorem Known.outcome_splitValue (first : Known descend left x) (second : Known descend right y)
    (logical : op.isRelational = false) (text : Text) :
    (splitValue mode descend text ⟨op, Text.trim left, Text.trim right⟩).outcome = .ok (combine op x y) := by
  by_cases both : op.isLogical = true
  · rw [outcome_splitValue_of_isLogical mode both, first.descends, second.descends]
    rfl
  · have equal : op = .eq ∨ op = .ne := by cases op <;> revert logical both <;> decide
    exact outcome_splitValue_of_operandValue mode equal first.outcome_operandValue second.outcome_operandValue text

end

/-! ## Chains -/

/-- A chain has its conventional value if there are as many levels as operands. -/
theorem outcome_reduce (mode : Comparison) (limit : Nat) {levels depth : Nat} (logical : Logical rest)
    (enough : rest.length < levels) :
    (reduce mode limit levels depth (joinedText first rest)).outcome = .ok (joinedValue first rest) := by
  induction levels generalizing depth first rest with
  | zero => omega
  | succ levels ih =>
    rw [reduce, reduceGroups_of_ungrouped _ _ (ungrouped_joinedText first rest)]
    by_cases single : rest = []
    · subst single
      rw [joinedText_nil, joinedValue_nil]
      exact first.reads.outcome_ungrouped mode depth _
    · obtain ⟨op, before, piece, after, rfl, without, earlier⟩ := exists_loosest single
      obtain ⟨logicalLeft, logicalOp, logicalRight⟩ := logical.sides
      have known : ∀ {first : Piece} {rest : List (Operator × Piece)}, Logical rest → rest.length < levels →
          Known (reduce mode limit levels (depth + 1)) (joinedText first rest) (joinedValue first rest) := by
        intro first rest logical enough
        have same := reduce_trim mode limit levels (depth + 1) (ungrouped_joinedText first rest)
        exact ⟨(same.value _).mpr (ih logical enough), ofText_of_not_occursIn⟩
      rw [List.length_append, List.length_cons] at enough
      have left : Known _ _ (joinedValue first before) := known logicalLeft (by omega)
      have right : Known _ _ (joinedValue piece after) := known logicalRight (by omega)
      rw [outcome_ungrouped_of_split _ _ _ (first?_joinedText logicalOp without earlier),
        left.outcome_splitValue mode right logicalOp, joinedValue_append logicalOp without]

/-- An operator between two words, with white space around it, is applied to the truth values. -/
theorem outcome_ungrouped_words (mode : Comparison) (limit levels depth : Nat) (logical : op.isRelational = false)
    {left right : Text} (blankLeft : Text.IsBlank left) (blankRight : Text.IsBlank right) (a b : Bool) :
    (ungrouped mode depth (reduce mode limit (levels + 1) (depth + 1))
      (Boolean.word a ++ left ++ op.symbol ++ right ++ Boolean.word b)).outcome = .ok (combine op a b) := by
  let first : Piece := ⟨_, a, reads_word Text.isBlank_nil blankLeft a⟩
  let second : Piece := ⟨_, b, reads_word blankRight Text.isBlank_nil b⟩
  have joins : Logical [(op, second)] := by
    intro joined mem
    obtain rfl := List.mem_singleton.mp mem
    exact logical
  have known : (reduce mode limit (levels + 2) depth (joinedText first [(op, second)])).outcome =
      .ok (joinedValue first [(op, second)]) := outcome_reduce mode limit joins (by simp)
  have text : joinedText first [(op, second)] =
      Boolean.word a ++ left ++ op.symbol ++ right ++ Boolean.word b := by
    simp [joinedText, Operator.join, first, second]
  have value : joinedValue first [(op, second)] = combine op a b := by
    cases op <;> cases a <;> cases b <;> rfl
  rw [reduce, reduceGroups_of_ungrouped _ _ (ungrouped_joinedText _ _), text, value] at known
  exact known

/-! ## Chains as they are written -/

theorem join_eq_flatMap (first : Text) (rest : List (Operator × Text)) :
    Operator.join first rest = first ++ rest.flatMap fun joined => joined.1.symbol ++ joined.2 := by
  induction rest generalizing first with
  | nil => simp [Operator.join]
  | cons head rest ih =>
    obtain ⟨op, text⟩ := head
    simp [Operator.join, ih]

theorem exists_pieces {rest : List Joined}
    (valid : ∀ joined ∈ rest, joined.op.isRelational = false ∧ Text.IsBlank joined.before ∧
      joined.link.IsValid ∧ Text.IsBlank joined.after) :
    ∃ pieces : List (Operator × Piece),
      pieces.map (Prod.map id Piece.text) =
        rest.map (fun joined => (joined.op, joined.before ++ joined.link.print ++ joined.after)) ∧
      pieces.map (Prod.map id Piece.value) = rest.map (fun joined => (joined.op, joined.link.value)) ∧
      Logical pieces := by
  induction rest with
  | nil => exact ⟨[], rfl, rfl, by simp [Logical]⟩
  | cons head rest ih =>
    obtain ⟨pieces, texts, values, logical⟩ := ih fun joined mem => valid joined (by simp [mem])
    obtain ⟨op, left, good, right⟩ := valid head (by simp)
    refine ⟨(head.op, ⟨_, _, head.link.reads_print good left right⟩) :: pieces, ?_, ?_, ?_⟩
    · simp [texts]
    · simp [values]
    · intro joined mem
      rcases List.mem_cons.mp mem with rfl | mem
      · exact op
      · exact logical joined mem

/-- A chain is its operands with the operators between them. -/
theorem IsValid.exists_joined {chain : Chain} (valid : chain.IsValid) :
    ∃ first rest, chain.print = joinedText first rest ∧ chain.value = joinedValue first rest ∧
      Logical rest ∧ rest.length + 1 = chain.size := by
  obtain ⟨left, good, right⟩ := valid.first
  obtain ⟨pieces, texts, values, logical⟩ := exists_pieces valid.rest
  refine ⟨⟨_, _, chain.first.reads_print good left right⟩, pieces, ?_, ?_, logical, ?_⟩
  · rw [joinedText, texts, join_eq_flatMap, List.flatMap_map]
    simp [print]
  · rw [joinedValue, values]
    rfl
  · simpa [size] using congrArg List.length texts

end Verdict.Chain

namespace Verdict.Evaluator

/-- An expression without parentheses has its conventional value, if the limit on the depth is at least the number of
    its operands. -/
theorem evaluate_print_chain (evaluator : Evaluator) {chain : Chain} (valid : chain.IsValid)
    (enough : chain.size ≤ evaluator.config.maxDepth.toNat) : evaluator.evaluate chain.print = .ok chain.value := by
  obtain ⟨first, rest, text, value, logical, size⟩ := valid.exists_joined
  have notBlank : ¬ Text.IsBlank chain.print := by
    rw [text]
    have side : Split.Side [] first.text := first.reads.side (by simp)
    exact Split.not_isBlank_join side.notBlank _
  rw [evaluate_of_not_isBlank evaluator notBlank, text, value]
  exact Chain.outcome_reduce _ _ logical (by omega)

/-- An order, both equalities and "and" are all within the second alternative. -/
theorem evaluate_print_chain_mixed :
    (default : Evaluator).evaluate "! True||5>=4 && false ==1 < 2!=true".toList = .ok true := by
  let chain : Chain :=
    ⟨[], .truth ⟨[[' ']], ['T', 'r', 'u', 'e']⟩, [],
      [⟨.or, [], .order ['5'] .ge ['4'], [' ']⟩, ⟨.and, [' '], .truth ⟨[], Boolean.word false⟩, [' ']⟩,
        ⟨.eq, [], .order ['1', ' '] .lt [' ', '2'], []⟩, ⟨.ne, [], .truth ⟨[], Boolean.word true⟩, []⟩]⟩
  have valid : chain.IsValid := by decide +kernel
  have enough : chain.size ≤ (default : Evaluator).config.maxDepth.toNat := by decide
  have text : chain.print = "! True||5>=4 && false ==1 < 2!=true".toList := by decide +kernel
  have value : chain.value = true := by decide +kernel
  rw [← text, ← value]
  exact evaluate_print_chain default valid enough

end Verdict.Evaluator
