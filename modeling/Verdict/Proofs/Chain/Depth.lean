import Verdict.Proofs.Parenthesized

/-!
# The levels that a chain needs

Chains with the same operator between any two operands. "And" and "or" evaluate both sides one level deeper, even if a
side is a single operand, so such a chain needs as many levels as it has operands. An equality evaluates a side there
only if an operator stands in it, so a chain of equalities needs one level less. What is in parentheses is evaluated at
the first level, and costs nothing.
-/
namespace Verdict

namespace Chain

/-! ## Chains of one operator -/

/-- The same operator in front of each. -/
def uniform {α : Type} (op : Operator) (rest : List α) : List (Operator × α) :=
  rest.map fun item => (op, item)

variable {op : Operator} {first piece : Piece} {rest : List Piece}

theorem Logical.uniform (logical : op.isRelational = false) (rest : List Piece) : Logical (uniform op rest) := by
  intro joined mem
  obtain ⟨other, _, rfl⟩ := List.mem_map.mp mem
  exact logical

/-- The operator binds least of those in the chain. -/
theorem without_looser (op : Operator) (rest : List Piece) : Without (looser op) (uniform op rest) := by
  intro joined mem
  obtain ⟨other, _, rfl⟩ := List.mem_map.mp mem
  show op ∉ looser op
  cases op <;> decide

theorem first?_uniform (logical : op.isRelational = false) :
    Split.first? (joinedText first (uniform op (piece :: rest))) =
      some ⟨op, Text.trim first.text, Text.trim (joinedText piece (uniform op rest))⟩ := by
  have without : Without (looser op) ([] ++ (op, piece) :: uniform op rest) := without_looser op (piece :: rest)
  have earlier : Without [op] ([] : List (Operator × Piece)) := by simp [Without]
  exact first?_joinedText logical without earlier

theorem joinedValue_uniform (logical : op.isRelational = false) :
    joinedValue first (uniform op (piece :: rest)) =
      combine op first.value (joinedValue piece (uniform op rest)) := by
  have without : Without (looser op) ([] ++ (op, piece) :: uniform op rest) := without_looser op (piece :: rest)
  rw [← joinedValue_nil first]
  exact joinedValue_append logical without

theorem joinedValue_and (first : Piece) (rest : List Piece) :
    joinedValue first (uniform .and rest) = (first :: rest).all Piece.value := by
  induction rest generalizing first with
  | nil => simp [uniform]
  | cons piece rest ih => rw [joinedValue_uniform rfl, ih, List.all_cons]; rfl

theorem joinedValue_or (first : Piece) (rest : List Piece) :
    joinedValue first (uniform .or rest) = (first :: rest).any Piece.value := by
  induction rest generalizing first with
  | nil => simp [uniform]
  | cons piece rest ih => rw [joinedValue_uniform rfl, ih, List.any_cons]; rfl

/-- Equalities hold together if an even number of operands is false. -/
theorem joinedValue_eq (first : Piece) (rest : List Piece) :
    joinedValue first (uniform .eq rest) = ((first :: rest).countP (fun piece => !piece.value) % 2 == 0) := by
  induction rest generalizing first with
  | nil => cases known : first.value <;> simp [uniform, known]
  | cons piece rest ih =>
    rw [joinedValue_uniform rfl, ih, List.countP_cons (l := piece :: rest)]
    show (first.value == _) = _
    generalize (piece :: rest).countP (fun piece => !piece.value) = falses
    cases first.value with
    | true => simp
    | false =>
      rw [Bool.eq_iff_iff]
      simp
      omega

/-- Inequalities hold together if an odd number of operands is true. -/
theorem joinedValue_ne (first : Piece) (rest : List Piece) :
    joinedValue first (uniform .ne rest) = ((first :: rest).countP Piece.value % 2 == 1) := by
  induction rest generalizing first with
  | nil => cases known : first.value <;> simp [uniform, known]
  | cons piece rest ih =>
    rw [joinedValue_uniform rfl, ih, List.countP_cons (l := piece :: rest)]
    show (first.value != _) = _
    generalize (piece :: rest).countP Piece.value = trues
    cases first.value with
    | true =>
      rw [Bool.eq_iff_iff]
      simp
      omega
    | false => simp

/-! ## One level -/

/-- The text is a chain of these operands, up to white space at its ends. -/
structure Spells (op : Operator) (first : Piece) (rest : List Piece) (text : Text) : Prop where
  plain : Ungrouped text
  same : Text.trim text = Text.trim (joinedText first (uniform op rest))

theorem spells_joinedText (op : Operator) (first : Piece) (rest : List Piece) :
    Spells op first rest (joinedText first (uniform op rest)) :=
  ⟨ungrouped_joinedText _ _, rfl⟩

theorem spells_trim (op : Operator) (first : Piece) (rest : List Piece) :
    Spells op first rest (Text.trim (joinedText first (uniform op rest))) :=
  ⟨(ungrouped_joinedText _ _).trim, Text.trim_trim _⟩

section

variable {mode : Comparison} {limit levels depth : Nat} {descend : Text → Traced Bool} {text left right : Text}

/-- A chain of more operands than one splits behind the first of them. -/
theorem Spells.outcome_reduce (spells : Spells op first (piece :: rest) text) (logical : op.isRelational = false) :
    (reduce mode limit (levels + 1) depth text).outcome =
      (splitValue mode (reduce mode limit levels (depth + 1)) text
        ⟨op, Text.trim first.text, Text.trim (joinedText piece (uniform op rest))⟩).outcome := by
  have found : Split.first? text =
      some ⟨op, Text.trim first.text, Text.trim (joinedText piece (uniform op rest))⟩ := by
    rw [← Split.first?_trim, spells.same, Split.first?_trim, first?_uniform logical]
  rw [reduce, reduceGroups_of_ungrouped _ _ spells.plain, outcome_ungrouped_of_split _ _ _ found]

/-! ## "And" and "or" -/

theorem outcome_reduce_single (first : Piece) :
    (reduce mode limit (levels + 1) depth (Text.trim first.text)).outcome = .ok first.value := by
  have known : (reduce mode limit (levels + 1) depth (joinedText first [])).outcome = .ok (joinedValue first []) :=
    Chain.outcome_reduce mode limit (by simp [Logical]) (by simp)
  rw [joinedText_nil, joinedValue_nil] at known
  exact ((reduce_trim mode limit (levels + 1) depth first.reads.ungrouped).value _).mpr known

/-- Without a level for each operand, the limit is exceeded at the first operand that has none. -/
theorem Spells.exceeded_of_isLogical (spells : Spells op first rest text) (logical : op.isLogical = true)
    (short : levels < rest.length) :
    ∀ blamed, (first :: rest)[levels]? = some blamed →
      (reduce mode limit (levels + 1) depth text).outcome = .error (.limitExceeded limit (Text.trim blamed.text)) := by
  intro blamed here
  have truthful : op.isRelational = false := by cases op <;> revert logical <;> decide
  induction levels generalizing first rest text depth with
  | zero =>
    obtain ⟨piece, rest, rfl⟩ := List.exists_cons_of_length_pos short
    obtain rfl : first = blamed := by simpa using here
    rw [spells.outcome_reduce truthful, outcome_splitValue_of_isLogical mode logical]
    rfl
  | succ levels ih =>
    obtain ⟨piece, rest, rfl⟩ := List.exists_cons_of_length_pos (Nat.zero_lt_of_lt short)
    -- The first operand has a level left, so what happens is decided by the operands behind it.
    have behind := @ih piece rest (depth + 1) _ (spells_trim op piece rest) (Nat.lt_of_succ_lt_succ short) here
    rw [spells.outcome_reduce truthful, outcome_splitValue_of_isLogical mode logical, outcome_reduce_single]
    show (reduce mode limit (levels + 1) (depth + 1) _).outcome.bind _ = _
    rw [behind]
    rfl

/-! ## Equalities -/

/-- An operand without operators is not evaluated one level deeper. -/
theorem outcome_operandValue_of_free (free : ¬ Operator.OccursIn piece.text) :
    (operandValue descend (Text.trim piece.text)).outcome = .ok piece.value := by
  have flat : ¬ Operator.occursIn (Text.trim piece.text) = true := fun inside =>
    free ((Operator.occursIn_trim_eq_true_iff _).mp inside)
  rw [operandValue, if_neg flat, Boolean.ofText_trim, piece.reads.ofText_of_not_occursIn free]
  rfl

theorem occursIn_joinedText (op : Operator) (first piece : Piece) (rest : List Piece) :
    Operator.occursIn (Text.trim (joinedText first (uniform op (piece :: rest)))) = true :=
  (Operator.occursIn_trim_eq_true_iff _).mpr
    ⟨op, first.text, joinedText piece (uniform op rest), List.append_assoc _ _ _⟩

/-- The error of a side that is evaluated one level deeper is the error of an equality. -/
theorem outcome_splitValue_of_failed {x : Bool} {e : EvalError} (equal : op = .eq ∨ op = .ne)
    (known : (operandValue descend left).outcome = .ok x) (nested : Operator.occursIn right = true)
    (failed : (descend right).outcome = .error e) :
    (splitValue mode descend text ⟨op, left, right⟩).outcome = .error e := by
  have behind : (operandValue descend right).outcome = .error e := by
    rw [operandValue, if_pos nested]
    exact failed
  have whole : ∀ op, (equality mode descend text ⟨op, left, right⟩).outcome = .error e := by
    intro op
    have here : (Operator.occursIn left || Operator.occursIn right) = true := by simp [nested]
    rw [equality, if_pos here, Traced.outcome_bind, known]
    show (operandValue descend right >>= fun value => pure (x == value)).outcome = .error e
    rw [Traced.outcome_bind, behind]
    rfl
  rcases equal with rfl | rfl
  · exact whole .eq
  · simp only [splitValue, Traced.outcome_bind, whole]
    rfl

/-- A chain of equalities has its value if there is a level for each operand but one. -/
theorem outcome_reduce_equalities (equal : op = .eq ∨ op = .ne)
    (free : ∀ piece ∈ first :: rest, ¬ Operator.OccursIn piece.text) (enough : rest.length ≤ levels + 1) :
    (reduce mode limit (levels + 1) depth (joinedText first (uniform op rest))).outcome =
      .ok (joinedValue first (uniform op rest)) := by
  have truthful : op.isRelational = false := by rcases equal with rfl | rfl <;> rfl
  induction rest generalizing first levels depth with
  | nil => exact outcome_reduce mode limit (.uniform truthful []) (by simp [uniform])
  | cons piece rest ih =>
    have one : (operandValue (reduce mode limit levels (depth + 1)) (Text.trim first.text)).outcome = .ok first.value :=
      outcome_operandValue_of_free (free first (by simp))
    have others : ∀ other ∈ piece :: rest, ¬ Operator.OccursIn other.text :=
      fun other mem => free other (List.mem_cons_of_mem _ mem)
    -- A single operand that is left needs no level, and more of them have one.
    have behind : (operandValue (reduce mode limit levels (depth + 1))
        (Text.trim (joinedText piece (uniform op rest)))).outcome = .ok (joinedValue piece (uniform op rest)) := by
      cases rest with
      | nil =>
        rw [uniform, List.map_nil, joinedText_nil, joinedValue_nil]
        exact outcome_operandValue_of_free (others piece (by simp))
      | cons next rest =>
        simp only [List.length_cons] at enough
        obtain ⟨fewer, rfl⟩ := Nat.exists_eq_add_of_le' (show 1 ≤ levels by omega)
        rw [operandValue, if_pos (occursIn_joinedText op piece next rest)]
        refine ((reduce_trim mode limit (fewer + 1) (depth + 1) (ungrouped_joinedText _ _)).value _).mpr ?_
        exact ih others (by simp only [List.length_cons]; omega)
    rw [(spells_joinedText op first (piece :: rest)).outcome_reduce truthful,
      outcome_splitValue_of_operandValue mode equal one behind, joinedValue_uniform truthful]

/-- Without these levels, the limit is exceeded. -/
theorem Spells.exceeded_of_equalities (spells : Spells op first rest text) (equal : op = .eq ∨ op = .ne)
    (free : ∀ piece ∈ first :: rest, ¬ Operator.OccursIn piece.text) (short : levels < rest.length) :
    ∃ t, (reduce mode limit levels depth text).outcome = .error (.limitExceeded limit t) := by
  have truthful : op.isRelational = false := by rcases equal with rfl | rfl <;> rfl
  induction levels generalizing first rest text depth with
  | zero => exact ⟨text, rfl⟩
  | succ levels ih =>
    obtain ⟨piece, rest, rfl⟩ := List.exists_cons_of_length_pos (Nat.zero_lt_of_lt short)
    have fewer : levels < rest.length := Nat.lt_of_succ_lt_succ short
    obtain ⟨t, exceeded⟩ := @ih piece rest (depth + 1) _ (spells_trim op piece rest)
      (fun piece mem => free piece (List.mem_cons_of_mem _ mem)) fewer
    -- At least two operands are left, so an operator stands between them.
    obtain ⟨next, rest, rfl⟩ := List.exists_cons_of_length_pos (Nat.zero_lt_of_lt fewer)
    refine ⟨t, ?_⟩
    rw [spells.outcome_reduce truthful]
    exact outcome_splitValue_of_failed equal (outcome_operandValue_of_free (free first (by simp)))
      (occursIn_joinedText op piece next rest) exceeded

end

end Chain

/-! ## Groups -/

/-- A text in parentheses, with white space around them. The text is not blank, and its own parentheses match and hold
    something. -/
structure Enclosed where
  before : Text
  text : Text
  after : Text
  blank : Text.IsBlank before ∧ Text.IsBlank after
  grouped : WellGrouped text
  filled : ¬ Text.IsBlank text

namespace Enclosed

def print (group : Enclosed) : Text :=
  group.before ++ (parenthesized group.text ++ group.after)

/-- Groups with the same operator between any two. -/
def join (op : Operator) (groups : List Enclosed) : Text :=
  op.symbol.intercalate (groups.map print)

/-- The word for its value, in place of the group. -/
def piece (group : Enclosed) (value : Bool) : Chain.Piece :=
  ⟨group.before ++ Boolean.word value ++ group.after, value, reads_word group.blank.1 group.blank.2 value⟩

/-- The words for the values of groups. -/
def pieces (value : Enclosed → Bool) (groups : List Enclosed) : List Chain.Piece :=
  groups.map fun group => group.piece (value group)

@[simp] theorem length_pieces (value : Enclosed → Bool) (groups : List Enclosed) :
    (pieces value groups).length = groups.length := by
  rw [pieces, List.length_map]

theorem trim_piece (group : Enclosed) (result : Bool) : Text.trim (group.piece result).text = Boolean.word result := by
  show Text.trim (group.before ++ Boolean.word result ++ group.after) = Boolean.word result
  rw [Text.trim_of_isBlank_right group.blank.2, Text.trim_of_isBlank_left group.blank.1]
  cases result <;> decide

theorem free_piece (group : Enclosed) (result : Bool) : ¬ Operator.OccursIn (group.piece result).text := by
  rw [← Operator.occursIn_trim_iff, trim_piece, ← Operator.occursIn_iff]
  cases result <;> decide

theorem free_pieces (value : Enclosed → Bool) (groups : List Enclosed) :
    ∀ piece ∈ pieces value groups, ¬ Operator.OccursIn piece.text := by
  intro piece mem
  obtain ⟨group, _, rfl⟩ := List.mem_map.mp mem
  exact group.free_piece (value group)

theorem wellGrouped_print (group : Enclosed) : WellGrouped group.print := by
  have inner := Evaluator.wellGrouped_parenthesized group.grouped group.filled
  exact group.blank.1.unmarked.ungrouped.wellGrouped.append
    (inner.append group.blank.2.unmarked.ungrouped.wellGrouped)

theorem join_cons (op : Operator) (first second : Enclosed) (rest : List Enclosed) :
    join op (first :: second :: rest) = first.print ++ (op.symbol ++ join op (second :: rest)) := by
  simp only [join, List.map_cons, List.intercalate_cons_cons, List.append_assoc]

theorem wellGrouped_join (op : Operator) (first : Enclosed) (rest : List Enclosed) :
    WellGrouped (join op (first :: rest)) := by
  induction rest generalizing first with
  | nil =>
    rw [join, List.map_singleton, List.intercalate_singleton]
    exact first.wellGrouped_print
  | cons second rest ih =>
    rw [join_cons]
    exact first.wellGrouped_print.append (op.ungrouped_symbol.wellGrouped.append (ih second))

theorem not_isBlank_join (op : Operator) (first : Enclosed) (rest : List Enclosed) :
    ¬ Text.IsBlank (join op (first :: rest)) := by
  have notBlank : ¬ Text.IsBlank first.print := Evaluator.not_isBlank_parenthesized _ _ _
  cases rest with
  | nil =>
    rw [join, List.map_singleton, List.intercalate_singleton]
    exact notBlank
  | cons second rest =>
    rw [join_cons]
    exact fun blank => notBlank (blank.of_subset (List.subset_append_left _ _))

end Enclosed

namespace Evaluator

variable (evaluator : Evaluator)

section

variable (positive : evaluator.config.maxDepth ≠ 0) {op : Operator} {value : Enclosed → Bool} {first : Enclosed}
  {rest groups : List Enclosed}
include positive

/-- The pass over a group leaves the word for its value. -/
theorem passes_print {group : Enclosed} (known : evaluator.evaluate group.text = .ok (value group)) :
    Passes evaluator.ungroupedValue group.print (group.piece (value group)).text := by
  have inside : Passes evaluator.ungroupedValue (parenthesized group.text) (Boolean.word (value group)) := by
    intro outer buffer rest
    rw [onePass_parenthesized _ group.grouped.1, ← evaluate_eq_onePass evaluator positive group.grouped group.filled,
      known]
    rfl
  have front : Passes evaluator.ungroupedValue group.before group.before :=
    .of_ungrouped group.blank.1.unmarked.ungrouped
  have back : Passes evaluator.ungroupedValue group.after group.after :=
    .of_ungrouped group.blank.2.unmarked.ungrouped
  have shape : (group.piece (value group)).text =
      group.before ++ (Boolean.word (value group) ++ group.after) := List.append_assoc _ _ _
  rw [shape]
  exact front.append (inside.append back)

theorem passes_join (op : Operator)
    (known : ∀ group ∈ first :: rest, evaluator.evaluate group.text = .ok (value group)) :
    Passes evaluator.ungroupedValue (Enclosed.join op (first :: rest))
      (Chain.joinedText (first.piece (value first)) (Chain.uniform op (Enclosed.pieces value rest))) := by
  induction rest generalizing first with
  | nil =>
    rw [Enclosed.join, List.map_singleton, List.intercalate_singleton]
    exact passes_print evaluator positive (known first (by simp))
  | cons second rest ih =>
    have here := passes_print evaluator positive (known first (by simp))
    have symbol : Passes evaluator.ungroupedValue op.symbol op.symbol := .of_ungrouped op.ungrouped_symbol
    rw [Enclosed.join_cons]
    exact here.append (symbol.append (ih fun group mem => known group (List.mem_cons_of_mem _ mem)))

/-- Groups are evaluated as the words for their values are. -/
theorem evaluate_join_eq (op : Operator)
    (known : ∀ group ∈ first :: rest, evaluator.evaluate group.text = .ok (value group)) :
    evaluator.evaluate (Enclosed.join op (first :: rest)) =
      (reduce evaluator.config.comparison evaluator.config.maxDepth.toNat evaluator.config.maxDepth.toNat 1
        (Chain.joinedText (first.piece (value first)) (Chain.uniform op (Enclosed.pieces value rest)))).outcome := by
  have pass := passes_join evaluator positive op known [] [] []
  rw [List.append_nil, List.nil_append] at pass
  let word := first.piece (value first)
  let words := Chain.uniform op (Enclosed.pieces value rest)
  have side : Split.Side [] word.text := word.reads.side (by simp)
  have notBlank : ¬ Text.IsBlank (Chain.joinedText word words) := Split.not_isBlank_join side.notBlank _
  have plain : Ungrouped (Chain.joinedText word words) := Chain.ungrouped_joinedText word words
  rw [evaluate_eq_onePass evaluator positive (Enclosed.wellGrouped_join op first rest)
    (Enclosed.not_isBlank_join op first rest), pass, ← evaluate_of_not_isBlank evaluator notBlank,
    evaluate_of_ungrouped evaluator positive plain notBlank]
  rfl

section

variable (known : ∀ group ∈ first :: rest, evaluator.evaluate group.text = .ok (value group))
include known

theorem evaluate_join_of_length_lt (truthful : op.isRelational = false)
    (enough : rest.length < evaluator.config.maxDepth.toNat) :
    evaluator.evaluate (Enclosed.join op (first :: rest)) =
      .ok (Chain.joinedValue (first.piece (value first)) (Chain.uniform op (Enclosed.pieces value rest))) := by
  rw [evaluate_join_eq evaluator positive op known]
  apply Chain.outcome_reduce _ _ (.uniform truthful _)
  simpa [Chain.uniform] using enough

theorem evaluate_join_equalities (equal : op = .eq ∨ op = .ne)
    (enough : rest.length ≤ evaluator.config.maxDepth.toNat) :
    evaluator.evaluate (Enclosed.join op (first :: rest)) =
      .ok (Chain.joinedValue (first.piece (value first)) (Chain.uniform op (Enclosed.pieces value rest))) := by
  obtain ⟨levels, limit⟩ := exists_levels positive
  rw [evaluate_join_eq evaluator positive op known, limit]
  have few : (Enclosed.pieces value rest).length ≤ levels + 1 := by
    rw [Enclosed.length_pieces]
    omega
  exact Chain.outcome_reduce_equalities equal (Enclosed.free_pieces value (first :: rest)) few

theorem evaluate_join_exceeded (logical : op.isLogical = true)
    (short : evaluator.config.maxDepth.toNat ≤ rest.length) {blamed : Enclosed}
    (here : (first :: rest)[evaluator.config.maxDepth.toNat - 1]? = some blamed) :
    evaluator.evaluate (Enclosed.join op (first :: rest)) =
      .error (.limitExceeded evaluator.config.maxDepth.toNat (Boolean.word (value blamed))) := by
  obtain ⟨levels, limit⟩ := exists_levels positive
  rw [evaluate_join_eq evaluator positive op known]
  rw [limit] at short here ⊢
  have few : levels < (Enclosed.pieces value rest).length := by
    rw [Enclosed.length_pieces]
    omega
  have there : (Enclosed.pieces value (first :: rest))[levels]? = some (blamed.piece (value blamed)) := by
    rw [Enclosed.pieces, List.getElem?_map]
    exact congrArg _ here
  have spells := Chain.spells_joinedText op (first.piece (value first)) (Enclosed.pieces value rest)
  rw [spells.exceeded_of_isLogical logical few _ there, Enclosed.trim_piece]

theorem evaluate_join_equalities_exceeded (equal : op = .eq ∨ op = .ne)
    (short : evaluator.config.maxDepth.toNat < rest.length) :
    ∃ text, evaluator.evaluate (Enclosed.join op (first :: rest)) =
      .error (.limitExceeded evaluator.config.maxDepth.toNat text) := by
  rw [evaluate_join_eq evaluator positive op known]
  have spells := Chain.spells_joinedText op (first.piece (value first)) (Enclosed.pieces value rest)
  have few : evaluator.config.maxDepth.toNat < (Enclosed.pieces value rest).length := by
    rwa [Enclosed.length_pieces]
  exact spells.exceeded_of_equalities equal (Enclosed.free_pieces value (first :: rest)) few

end

/-- Groups with "and" or with "or" between them need a level each, and the value of the first group without a level is
    what exceeds the limit. With an equality between any two, one level less is enough. -/
theorem evaluate_join (nonempty : groups ≠ [])
    (known : ∀ group ∈ groups, evaluator.evaluate group.text = .ok (value group)) :
    let limit := evaluator.config.maxDepth.toNat
    (groups.length ≤ limit →
      evaluator.evaluate (Enclosed.join .and groups) = .ok (groups.all value) ∧
      evaluator.evaluate (Enclosed.join .or groups) = .ok (groups.any value)) ∧
    (limit < groups.length → ∃ blamed, groups[limit - 1]? = some blamed ∧ ∀ op : Operator, op.isLogical = true →
      evaluator.evaluate (Enclosed.join op groups) = .error (.limitExceeded limit (Boolean.word (value blamed)))) ∧
    (groups.length - 1 ≤ limit →
      evaluator.evaluate (Enclosed.join .eq groups) = .ok (groups.countP (fun group => !value group) % 2 == 0) ∧
      evaluator.evaluate (Enclosed.join .ne groups) = .ok (groups.countP value % 2 == 1)) ∧
    (limit < groups.length - 1 → ∀ op : Operator, op = .eq ∨ op = .ne →
      ∃ text, evaluator.evaluate (Enclosed.join op groups) = .error (.limitExceeded limit text)) := by
  intro limit
  obtain ⟨first, rest, rfl⟩ := List.exists_cons_of_ne_nil nonempty
  simp only [List.length_cons, Nat.add_sub_cancel]
  refine ⟨fun enough => ?_, fun exceeded => ?_, fun enough => ?_, fun exceeded op equal => ?_⟩
  · rw [evaluate_join_of_length_lt evaluator positive known rfl enough, Chain.joinedValue_and,
      evaluate_join_of_length_lt evaluator positive known rfl enough, Chain.joinedValue_or]
    simp [Enclosed.pieces, Enclosed.piece, Function.comp_def]
  · have within : limit - 1 < (first :: rest).length := by
      simp only [List.length_cons]
      omega
    refine ⟨_, List.getElem?_eq_getElem within, fun op logical => ?_⟩
    exact evaluate_join_exceeded evaluator positive known logical (Nat.le_of_lt_succ exceeded)
      (List.getElem?_eq_getElem within)
  · rw [evaluate_join_equalities evaluator positive known (.inl rfl) enough, Chain.joinedValue_eq,
      evaluate_join_equalities evaluator positive known (.inr rfl) enough, Chain.joinedValue_ne]
    have words : first.piece (value first) :: Enclosed.pieces value rest = Enclosed.pieces value (first :: rest) := rfl
    rw [words, Enclosed.pieces, List.countP_map, List.countP_map]
    exact ⟨rfl, rfl⟩
  · exact evaluate_join_equalities_exceeded evaluator positive known equal exceeded

end

/-- Two levels are not enough for three groups, unless an equality stands between any two of them. -/
theorem evaluate_join_three :
    let evaluator : Evaluator := ⟨⟨.ordinal, 2⟩⟩
    evaluator.evaluate "(1<2) && (2<1)&&(true)".toList = .error (.limitExceeded 2 "false".toList) ∧
      evaluator.evaluate "(1<2) == (2<1)==(true)".toList = .ok false := by
  intro evaluator
  let less : Enclosed := ⟨[], "1<2".toList, [' '], by decide, by decide +kernel, by decide⟩
  let greater : Enclosed := ⟨[' '], "2<1".toList, [], by decide, by decide +kernel, by decide⟩
  let truth : Enclosed := ⟨[], "true".toList, [], by decide, by decide +kernel, by decide⟩
  let value (group : Enclosed) : Bool := group.text != "2<1".toList
  have known : ∀ group ∈ [less, greater, truth], evaluator.evaluate group.text = .ok (value group) := by
    intro group mem
    simp only [List.mem_cons, List.not_mem_nil, or_false] at mem
    rcases mem with rfl | rfl | rfl
    · decide +kernel
    · decide +kernel
    · decide +kernel
  obtain ⟨_, exceeded, equalities, _⟩ := evaluate_join evaluator (by decide) (List.cons_ne_nil _ _) known
  obtain ⟨blamed, second, conjunction⟩ := exceeded (by decide)
  obtain rfl : greater = blamed := Option.some.inj second
  exact ⟨conjunction .and rfl, (equalities (by decide)).1⟩

end Evaluator
end Verdict
