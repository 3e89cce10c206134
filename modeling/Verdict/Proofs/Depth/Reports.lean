import Verdict.Proofs.Group.Errors

/-!
# What is reported at which depth

Groups are reduced in the expression itself only. Each split is reported with its depth: those of the expression and of
its groups have depth one, and any other is the split of a side of an earlier one, one level deeper (`Linked`). If the
limit is exceeded, the last split of all is at the deepest level, and the text at fault is one of its sides (`EndsAt`).
-/
namespace Verdict

/-! ## Lists of splits -/

/-- A side of one split is what splits next, one level deeper. Only operators on truth values have such sides. -/
def IsBelow (parent child : Split × Nat) : Prop :=
  parent.1.operator.isRelational = false ∧ child.2 = parent.2 + 1 ∧
    (Split.first? parent.1.left = some child.1 ∨ Split.first? parent.1.right = some child.1)

/-- Every split is a root, or is below one that was found before it. -/
def Linked (root : Split × Nat → Prop) (list : List (Split × Nat)) : Prop :=
  ∀ before child after, list = before ++ child :: after → root child ∨ ∃ parent ∈ before, IsBelow parent child

namespace Linked

variable {root other : Split × Nat → Prop} {first second list : List (Split × Nat)} {parent : Split × Nat}

theorem nil (root : Split × Nat → Prop) : Linked root [] := by
  intro before child after whole
  simp at whole

theorem imp (linked : Linked root list) (weaker : ∀ child, root child → other child) : Linked other list := by
  intro before child after whole
  exact (linked before child after whole).imp_left (weaker child)

theorem append (one : Linked root first) (two : Linked root second) : Linked root (first ++ second) := by
  intro before child after whole
  rcases List.append_eq_append_iff.mp whole with ⟨more, rfl, rest⟩ | ⟨more, rfl, rest⟩
  · rcases two more child after rest with here | ⟨parent, mem, below⟩
    · exact .inl here
    · exact .inr ⟨parent, List.mem_append_right _ mem, below⟩
  · cases more with
    | nil =>
      rcases two [] child after rest.symm with here | ⟨parent, mem, _⟩
      · exact .inl here
      · simp at mem
    | cons next more =>
      obtain ⟨rfl, _⟩ := List.cons.inj rest
      exact one before child more rfl

/-- What is below a root may follow it. -/
theorem cons (here : root parent) (below : Linked (IsBelow parent) list) : Linked root (parent :: list) := by
  intro before child after whole
  cases before with
  | nil =>
    obtain ⟨rfl, _⟩ := List.cons.inj whole
    exact .inl here
  | cons head before =>
    obtain ⟨rfl, rest⟩ := List.cons.inj whole
    rcases below before child after rest with direct | ⟨other, mem, under⟩
    · exact .inr ⟨parent, List.mem_cons_self, direct⟩
    · exact .inr ⟨other, List.mem_cons_of_mem _ mem, under⟩

end Linked

/-- The last split is at the deepest level, its operator is one on truth values, and the text is one of its sides. -/
def EndsAt (limit : Nat) (list : List (Split × Nat)) (text : Text) : Prop :=
  ∃ cut, list.getLast? = some (cut, limit) ∧ cut.operator.isRelational = false ∧ (text = cut.left ∨ text = cut.right)

theorem EndsAt.append {limit : Nat} {list : List (Split × Nat)} {text : Text} (ends : EndsAt limit list text)
    (more : List (Split × Nat)) : EndsAt limit (more ++ list) text := by
  obtain ⟨cut, last, sides⟩ := ends
  exact ⟨cut, by rw [List.getLast?_append, last]; rfl, sides⟩

/-! ## One level -/

/-- The splits that are found in a text at a depth are the split of the text at this depth, and what is below it. If the
    limit is exceeded, either the depth itself is beyond it, and nothing has happened, or the last split leads there. -/
structure Orderly (limit depth : Nat) (text : Text) (traced : Traced Bool) : Prop where
  linked : Linked (fun child => child.2 = depth ∧ Split.first? text = some child.1) (splits traced.events)
  exceeded : ∀ l t, traced.outcome = .error (.limitExceeded l t) →
    limit < depth ∧ t = text ∧ splits traced.events = [] ∨ EndsAt limit (splits traced.events) t
  refused : limit < depth → ∀ value, traced.outcome ≠ .ok value

section

variable {mode : Comparison} {limit depth : Nat} {descend : Text → Traced Bool} {text side : Text} {cut : Split}

theorem linked_sideValue (below : Orderly limit (depth + 1) side (descend side))
    (truthful : cut.operator.isRelational = false) (here : side = cut.left ∨ side = cut.right) (descends : Bool) :
    Linked (IsBelow (cut, depth)) (splits (sideValue descend descends side).events) := by
  cases descends with
  | false => exact .nil _
  | true =>
    refine below.linked.imp fun child found => ⟨truthful, found.1, ?_⟩
    rcases here with rfl | rfl
    · exact .inl found.2
    · exact .inr found.2

/-- Where a side exceeds the limit, the split is the last one or something below it is. -/
theorem exceeded_sideValue (below : Orderly limit (depth + 1) side (descend side)) (within : depth ≤ limit)
    (truthful : cut.operator.isRelational = false) (here : side = cut.left ∨ side = cut.right) {descends : Bool}
    {l : Nat} {t : Text} (failed : (sideValue descend descends side).outcome = .error (.limitExceeded l t))
    {list : List (Split × Nat)} (quiet : depth = limit → list = []) :
    EndsAt limit ((cut, depth) :: (list ++ splits (sideValue descend descends side).events)) t := by
  cases descends with
  | false => exact absurd trivial (Boolean.isOperand_of_ofText failed).not_isLimit
  | true =>
    rcases below.exceeded l t failed with ⟨deep, rfl, silent⟩ | ends
    · obtain rfl : depth = limit := by omega
      have only : splits (sideValue descend true t).events = [] := silent
      rw [only, quiet rfl]
      exact ⟨cut, rfl, truthful, here⟩
    · exact ends.append ((cut, depth) :: list)

/-- At the deepest level, a side has a value only if nothing is evaluated one level deeper. -/
theorem splits_sideValue_of_ok (below : Orderly limit (depth + 1) side (descend side)) {descends value : Bool}
    (known : (sideValue descend descends side).outcome = .ok value) (deepest : depth = limit) :
    splits (sideValue descend descends side).events = [] := by
  cases descends with
  | false => rfl
  | true => exact absurd known (below.refused (by omega) value)

theorem orderly_ungrouped (within : depth ≤ limit) (plain : Ungrouped text)
    (deeper : ∀ text, Ungrouped text → Orderly limit (depth + 1) text (descend text)) :
    Orderly limit depth text (ungrouped mode depth descend text) := by
  unfold ungrouped
  cases found : Split.first? text with
  | none =>
    refine ⟨.nil _, fun l t failed => ?_, fun beyond => by omega⟩
    exact absurd trivial (Boolean.isOperand_of_ofText failed).not_isLimit
  | some cut =>
    have root : (cut, depth).2 = depth ∧ Split.first? text = some (cut, depth).1 := ⟨rfl, found⟩
    dsimp only
    rw [Traced.report_bind]
    cases planned_splitValue mode text cut with
    | atOnce outcome errors same =>
      rw [same descend]
      refine ⟨.cons root (.nil _), fun l t failed => ?_, fun beyond => by omega⟩
      have operand : (EvalError.limitExceeded l t).IsOperand := by
        rcases errors _ failed with ⟨_, order⟩ | ⟨_, equality⟩
        · exact isOperand_of_relation order
        · exact isOperand_of_equals equality
      exact absurd trivial operand.not_isLimit
    | fromSides truthful left right combine same =>
      obtain ⟨plainLeft, plainRight⟩ := Split.ungrouped_sides plain found
      have one := deeper cut.left plainLeft
      have two := deeper cut.right plainRight
      have linkedLeft := linked_sideValue one truthful (.inl rfl) left
      have linkedRight := linked_sideValue two truthful (.inr rfl) right
      rw [same descend]
      rcases sidesValue_cases descend cut left right combine with ⟨error, known, shape⟩ | ⟨value, known, shape⟩
      · rw [shape]
        refine ⟨.cons root linkedLeft, fun l t failed => .inr ?_, fun beyond => by omega⟩
        rw [Except.error.inj failed] at known
        exact exceeded_sideValue one within truthful (.inl rfl) known fun _ => rfl
      · rw [shape]
        have both : splits (.split cut depth :: ((sideValue descend left cut.left).events ++
            (sideValue descend right cut.right).events)) =
          (cut, depth) :: (splits (sideValue descend left cut.left).events ++
            splits (sideValue descend right cut.right).events) := by
          rw [← splits_append]
          rfl
        refine ⟨?_, fun l t failed => .inr ?_, fun beyond => by omega⟩
        · rw [both]
          exact .cons root (linkedLeft.append linkedRight)
        · rw [both]
          have last : (sideValue descend right cut.right).outcome = .error (.limitExceeded l t) := by
            cases outcome : (sideValue descend right cut.right).outcome with
            | error error => simpa [outcome, Except.map] using failed
            | ok other => simp [outcome, Except.map] at failed
          exact exceeded_sideValue two within truthful (.inr rfl) last (splits_sideValue_of_ok one known)

end

/-! ## All levels -/

theorem orderly_reduce (mode : Comparison) {limit levels depth : Nat} (total : depth + levels = limit + 1)
    {text : Text} (plain : Ungrouped text) : Orderly limit depth text (reduce mode limit levels depth text) := by
  induction levels generalizing depth text with
  | zero =>
    refine ⟨.nil _, fun l t failed => ?_, fun _ value => by simp [reduce]⟩
    obtain ⟨_, rfl⟩ : limit = l ∧ text = t := by simpa [reduce] using failed
    exact .inl ⟨by omega, rfl, rfl⟩
  | succ levels ih =>
    rw [reduce, reduceGroups_of_ungrouped _ _ plain]
    exact orderly_ungrouped (by omega) plain fun text plain => ih (by omega) plain

/-- The groups of a text follow one another, each with its splits. -/
theorem orderly_reduceGroups {value : Text → Traced Bool} {limit depth : Nat} (within : depth ≤ limit)
    (groups : ∀ text, Ungrouped text → Orderly limit depth text (value text)) (text : Text) :
    Linked (fun child => child.2 = depth) (splits (reduceGroups value depth text).events) ∧
      ∀ l t, (reduceGroups value depth text).outcome = .error (.limitExceeded l t) →
        EndsAt limit (splits (reduceGroups value depth text).events) t := by
  have one : ∀ {text}, Ungrouped text → Linked (fun child => child.2 = depth) (splits (value text).events) ∧
      ∀ l t, (value text).outcome = .error (.limitExceeded l t) → EndsAt limit (splits (value text).events) t := by
    intro text plain
    have orderly := groups text plain
    refine ⟨orderly.linked.imp fun child found => found.1, fun l t failed => ?_⟩
    exact (orderly.exceeded l t failed).resolve_left fun beyond => by omega
  refine reduceGroups_induction (motive := fun _ traced =>
    Linked (fun child => child.2 = depth) (splits traced.events) ∧
      ∀ l t, traced.outcome = .error (.limitExceeded l t) → EndsAt limit (splits traced.events) t) ?_ ?_ ?_ ?_ text
  · intro text error found
    refine ⟨.nil _, fun l t failed => ?_⟩
    obtain rfl := Except.error.inj failed
    exact absurd (isGrouping_of_search found) not_false
  · intro text plain
    exact one plain
  · intro text group error found failed
    obtain ⟨linked, ends⟩ := one (plain_of_found found).1
    refine ⟨linked, fun l t same => ends l t ?_⟩
    rw [failed]
    exact same
  · rintro text group result found _ rest ⟨linked, ends⟩
    have both : splits ((value group).events ++ .reducedGroup group result depth :: rest.events) =
        splits (value group).events ++ splits rest.events := splits_append _ _
    rw [both]
    exact ⟨(one (plain_of_found found).1).1.append linked, fun l t failed => (ends l t failed).append _⟩

theorem orderly_levels (mode : Comparison) {limit : Nat} (positive : 0 < limit) (text : Text) :
    Linked (fun child => child.2 = 1) (splits (reduce mode limit limit 1 text).events) ∧
      ∀ l t, (reduce mode limit limit 1 text).outcome = .error (.limitExceeded l t) →
        EndsAt limit (splits (reduce mode limit limit 1 text).events) t := by
  obtain ⟨levels, rfl⟩ := Nat.exists_eq_succ_of_ne_zero positive.ne'
  have groups : ∀ text, Ungrouped text →
      Orderly (levels + 1) 1 text (ungrouped mode 1 (reduce mode (levels + 1) levels 2) text) :=
    fun text plain => orderly_ungrouped (by omega) plain fun text plain => orderly_reduce mode (by omega) plain
  rw [reduce]
  exact orderly_reduceGroups (by omega) groups text

/-! ## What is known of every report -/

/-- The sides of a split are texts without parentheses and without white space at their ends, and not empty. The
    operator is the first of its kind, so the left side has no other in it. -/
structure Split.IsProper (split : Split) : Prop where
  filled : ¬ Text.IsBlank split.left ∧ ¬ Text.IsBlank split.right
  trimmed : Text.trim split.left = split.left ∧ Text.trim split.right = split.right
  plain : Ungrouped split.left ∧ Ungrouped split.right
  first : ¬ split.operator.symbol <:+: split.left

theorem Split.isProper_of_first? {text : Text} {split : Split} (plain : Ungrouped text)
    (found : first? text = some split) : split.IsProper where
  filled := not_isBlank_sides found
  trimmed := trim_sides found
  plain := ungrouped_sides plain found
  first := not_occurs_left found

/-- A report from within the limit. Groups are reduced at depth one. -/
def Event.IsWithin (limit : Nat) : Event → Prop
  | .split cut depth => cut.IsProper ∧ 1 ≤ depth ∧ depth ≤ limit
  | .reducedGroup _ _ depth => depth = 1
  | .failed .. => True

theorem upholds_isWithin (mode : Comparison) (limit : Nat) :
    Upholds mode limit (fun levels depth text => Ungrouped text ∧ 1 ≤ depth ∧ depth + levels = limit + 1)
      (Event.IsWithin limit) (fun _ => True) := by
  apply Upholds.of_isOperand
  · exact fun _ _ => trivial
  · exact fun _ _ _ here => here.1
  · rintro levels depth text split ⟨plain, positive, total⟩ found _
    obtain ⟨left, right⟩ := Split.ungrouped_sides plain found
    exact ⟨⟨left, by omega, by omega⟩, ⟨right, by omega, by omega⟩⟩
  · rintro levels depth text split ⟨plain, positive, total⟩ found
    exact ⟨Split.isProper_of_first? plain found, positive, by omega⟩
  · exact fun _ _ _ => trivial

theorem isWithin_of_mem (mode : Comparison) {limit : Nat} (positive : 0 < limit) (text : Text) :
    ∀ event ∈ (reduce mode limit limit 1 text).events, event.IsWithin limit := by
  obtain ⟨levels, rfl⟩ := Nat.exists_eq_succ_of_ne_zero positive.ne'
  have upholds := upholds_isWithin mode (levels + 1)
  have groups : ∀ text, Ungrouped text →
      (ungrouped mode 1 (reduce mode (levels + 1) levels 2) text).Within (Event.IsWithin (levels + 1)) fun _ => True :=
    fun text plain => upholds.ungrouped levels 1 (fun text here => upholds.reduce levels 2 here)
      ⟨plain, Nat.le_refl 1, by omega⟩
  rw [reduce]
  have whole : (reduceGroups (ungrouped mode 1 (reduce mode (levels + 1) levels 2)) 1 text).Within
      (Event.IsWithin (levels + 1)) fun _ => True := by
    apply Traced.Within.reduceGroups fun _ => True
    · exact fun _ _ _ _ => trivial
    · exact fun text _ plain => groups text plain
    · exact fun _ _ _ _ => trivial
    · exact fun _ _ _ _ _ _ => ⟨rfl, trivial⟩
    · trivial
  exact whole.events

theorem splits_onError {α : Type} (traced : Traced α) (expression : Text) :
    splits (traced.onError (.failed expression)).events = splits traced.events := by
  unfold Traced.onError
  split
  · rfl
  · rw [splits, List.filterMap_append]
    exact List.append_nil _

namespace Evaluator

variable (evaluator : Evaluator)

/-- All that is reported comes from the evaluation of the expression as a text, apart from its error. -/
theorem mem_of_mem_trace {expression : Text} {event : Event} (mem : event ∈ (evaluator.trace expression).events) :
    event ∈ (reduce evaluator.config.comparison evaluator.config.maxDepth.toNat evaluator.config.maxDepth.toNat 1
        expression).events ∨
      ∃ error, event = .failed expression error := by
  by_cases blank : Text.IsBlank expression
  · rw [trace_of_isBlank evaluator blank] at mem
    simp [Traced.fail] at mem
  · rw [trace_of_not_isBlank evaluator blank] at mem
    exact Traced.mem_of_mem_onError mem

theorem isWithin_of_mem_trace (positive : evaluator.config.maxDepth ≠ 0) (expression : Text) :
    ∀ event ∈ (evaluator.trace expression).events, event.IsWithin evaluator.config.maxDepth.toNat := by
  intro event mem
  rcases mem_of_mem_trace evaluator mem with before | ⟨error, rfl⟩
  · exact isWithin_of_mem _ (toNat_limit_pos positive) expression event before
  · trivial

theorem orderly_trace (positive : evaluator.config.maxDepth ≠ 0) (expression : Text) :
    Linked (fun child => child.2 = 1) (splits (evaluator.trace expression).events) ∧
      ∀ l t, evaluator.evaluate expression = .error (.limitExceeded l t) →
        EndsAt evaluator.config.maxDepth.toNat (splits (evaluator.trace expression).events) t := by
  by_cases blank : Text.IsBlank expression
  · rw [evaluate, trace_of_isBlank evaluator blank]
    exact ⟨.nil _, fun l t failed => by simp at failed⟩
  · have same : splits (evaluator.trace expression).events =
        splits (reduce evaluator.config.comparison evaluator.config.maxDepth.toNat evaluator.config.maxDepth.toNat 1
          expression).events := by
      rw [trace_of_not_isBlank evaluator blank]
      exact splits_onError _ expression
    rw [same, evaluate_of_not_isBlank evaluator blank]
    exact orderly_levels evaluator.config.comparison (toNat_limit_pos positive) expression

/-- Groups are only reduced in the expression itself. Splits are of texts without parentheses and within the limit, and
    those at a depth beyond one are splits of the sides of earlier ones. Where the limit is exceeded, the last split is
    the one whose side is at fault, and nothing deeper has happened. -/
theorem split_depth_le_and_exists_parent (positive : evaluator.config.maxDepth ≠ 0) (expression : Text) :
    let limit := evaluator.config.maxDepth.toNat
    let events := (evaluator.trace expression).events
    (∀ group result depth, .reducedGroup group result depth ∈ events → depth = 1) ∧
    (∀ cut depth, .split cut depth ∈ events → cut.IsProper ∧ 1 ≤ depth ∧ depth ≤ limit) ∧
    (∀ before cut depth after, splits events = before ++ (cut, depth) :: after → 2 ≤ depth →
      ∃ parent, (parent, depth - 1) ∈ before ∧ parent.operator.isRelational = false ∧
        (Split.first? parent.left = some cut ∨ Split.first? parent.right = some cut)) ∧
    ∀ exceeded text, evaluator.evaluate expression = .error (.limitExceeded exceeded text) →
      ∃ cut, (splits events).getLast? = some (cut, limit) ∧ cut.operator.isRelational = false ∧
        (text = cut.left ∨ text = cut.right) := by
  intro limit events
  have within := isWithin_of_mem_trace evaluator positive expression
  obtain ⟨linked, ends⟩ := orderly_trace evaluator positive expression
  refine ⟨fun group result depth mem => within _ mem, fun cut depth mem => within _ mem, ?_, ends⟩
  intro before cut depth after whole deep
  rcases linked before (cut, depth) after whole with root | ⟨⟨parent, above⟩, mem, truthful, deeper, side⟩
  · obtain rfl : depth = 1 := root
    omega
  · obtain rfl : depth = above + 1 := deeper
    exact ⟨parent, mem, truthful, side⟩

/-- Two levels are too few for a chain of equalities behind an operator. -/
theorem split_depth_le_and_exists_parent_exceeded :
    let evaluator : Evaluator := ⟨⟨.ordinal, 2⟩⟩
    ∃ cut, (splits (evaluator.trace "(1<2) && true == !false == false".toList).events).getLast? = some (cut, 2) ∧
      cut.operator.isRelational = false ∧
      ("!false == false".toList = cut.left ∨ "!false == false".toList = cut.right) := by
  intro evaluator
  have failed : evaluator.evaluate "(1<2) && true == !false == false".toList =
      .error (.limitExceeded 2 "!false == false".toList) := by decide +kernel
  exact (evaluator.split_depth_le_and_exists_parent (by decide) _).2.2.2 2 _ failed

end Evaluator
end Verdict
