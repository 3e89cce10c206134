import Mathlib.Data.Nat.Find
import Verdict.Proofs.Depth.Reports

/-!
# The limit on the depth

An evaluation that does not come to its limit is the same under any larger one (`reduce_extends`). Each level costs an
operator of two characters and an operand, and no text gets longer while its groups give way to their values, so a
limit of a third of the length of the expression is always enough (`isEnough_of_short`).
-/
namespace Verdict

/-! ## Larger limits -/

/-- The first evaluation stops at its limit, or it does not come to a limit and the second one is the same. -/
def Traced.Extends {α : Type} (limit : Nat) (first second : Traced α) : Prop :=
  (∃ text, first.outcome = .error (.limitExceeded limit text)) ∨
    first = second ∧ ∀ e, first.outcome = .error e → ¬ e.IsLimit

namespace Traced.Extends

variable {α β : Type} {limit : Nat}

theorem refl {traced : Traced α} (errors : ∀ e, traced.outcome = .error e → ¬ e.IsLimit) :
    traced.Extends limit traced :=
  .inr ⟨rfl, errors⟩

theorem ofExcept {outcome : Except EvalError α} (errors : ∀ e, outcome = .error e → e.IsOperand) :
    (Traced.ofExcept outcome).Extends limit (Traced.ofExcept outcome) :=
  refl fun e failed => (errors e failed).not_isLimit

/-- Steps that follow one another may each get a larger limit. -/
theorem bind {first first' : Traced α} {next next' : α → Traced β} (one : first.Extends limit first')
    (more : ∀ value, (next value).Extends limit (next' value)) :
    (first >>= next).Extends limit (first' >>= next') := by
  rcases one with ⟨text, exceeded⟩ | ⟨rfl, errors⟩
  · refine .inl ⟨text, ?_⟩
    rw [outcome_bind, exceeded]
    rfl
  · obtain ⟨events, outcome⟩ := first
    cases outcome with
    | error e =>
      refine .inr ⟨rfl, fun other same => ?_⟩
      obtain rfl : e = other := Except.error.inj same
      exact errors e rfl
    | ok value =>
      rcases more value with ⟨text, exceeded⟩ | ⟨same, later⟩
      · exact .inl ⟨text, exceeded⟩
      · refine .inr ⟨?_, later⟩
        show Traced.mk (events ++ (next value).events) (next value).outcome =
          Traced.mk (events ++ (next' value).events) (next' value).outcome
        rw [same]

end Traced.Extends

section

variable {mode : Comparison} {limit depth : Nat} {descend descend' value value' : Text → Traced Bool}

theorem sideValue_extends (deeper : ∀ text, (descend text).Extends limit (descend' text)) (descends : Bool)
    (text : Text) : (sideValue descend descends text).Extends limit (sideValue descend' descends text) := by
  cases descends with
  | true => exact deeper text
  | false => exact .ofExcept fun e failed => Boolean.isOperand_of_ofText failed

theorem splitValue_extends (deeper : ∀ text, (descend text).Extends limit (descend' text)) (text : Text)
    (split : Split) :
    (splitValue mode descend text split).Extends limit (splitValue mode descend' text split) := by
  cases planned_splitValue mode text split with
  | atOnce outcome errors same =>
    rw [same descend, same descend']
    apply Traced.Extends.ofExcept
    intro e failed
    rcases errors e failed with ⟨_, order⟩ | ⟨_, equality⟩
    · exact isOperand_of_relation order
    · exact isOperand_of_equals equality
  | fromSides _ left right combine same =>
    rw [same descend, same descend']
    refine (sideValue_extends deeper left split.left).bind fun a => ?_
    exact (sideValue_extends deeper right split.right).bind fun b => .refl (by simp)

theorem ungrouped_extends (deeper : ∀ text, (descend text).Extends limit (descend' text)) (text : Text) :
    (ungrouped mode depth descend text).Extends limit (ungrouped mode depth descend' text) := by
  unfold ungrouped
  cases Split.first? text with
  | none => exact .ofExcept fun e failed => Boolean.isOperand_of_ofText failed
  | some split =>
    have reported : (Traced.report (.split split depth)).Extends limit (Traced.report (.split split depth)) :=
      .refl (by simp [Traced.report])
    exact reported.bind fun _ => splitValue_extends deeper text split

theorem reduceGroups_extends (groups : ∀ text, (value text).Extends limit (value' text)) (text : Text) :
    (reduceGroups value depth text).Extends limit (reduceGroups value' depth text) := by
  refine reduceGroups_induction
    (motive := fun text traced => traced.Extends limit (reduceGroups value' depth text)) ?_ ?_ ?_ ?_ text
  · intro text error found
    have other : reduceGroups value' depth text = .fail error := by rw [reduceGroups_eq, found]
    rw [other]
    apply Traced.Extends.refl
    intro e failed
    obtain rfl := Except.error.inj failed
    exact (isGrouping_of_search found).not_isLimit
  · intro text plain
    rw [reduceGroups_of_ungrouped _ _ plain]
    exact groups text
  · intro text group error found failed
    rcases groups group with ⟨t, exceeded⟩ | ⟨same, errors⟩
    · exact .inl ⟨t, failed.symm.trans exceeded⟩
    · have other : (value' group).outcome = .error error := by rw [← same, failed]
      rw [reduceGroups_of_failed found other, ← same]
      apply Traced.Extends.refl
      intro e same'
      exact errors e (failed.trans same')
  · intro text group result found known rest behind
    rcases groups group with ⟨t, exceeded⟩ | ⟨same, _⟩
    · exact absurd (known.symm.trans exceeded) (by simp)
    · have other : (value' group).outcome = .ok result := by rw [← same, known]
      rw [reduceGroups_of_reduced found other, ← same]
      rcases behind with ⟨t, exceeded⟩ | ⟨rfl, errors⟩
      · exact .inl ⟨t, exceeded⟩
      · exact .refl errors

end

/-- More levels, under a larger limit, change nothing unless the limit is exceeded. -/
theorem reduce_extends (mode : Comparison) (limit limit' : Nat) {levels levels' : Nat} (more : levels ≤ levels')
    (depth : Nat) (text : Text) :
    (reduce mode limit levels depth text).Extends limit (reduce mode limit' levels' depth text) := by
  induction levels generalizing levels' depth text with
  | zero => exact .inl ⟨text, rfl⟩
  | succ levels ih =>
    obtain ⟨levels', rfl⟩ := Nat.exists_eq_add_of_le more
    rw [Nat.add_right_comm, reduce, reduce]
    apply reduceGroups_extends
    intro text
    apply ungrouped_extends
    intro text
    exact ih (by omega) (depth + 1) text

/-! ## What a level costs -/

/-- A word has four letters or five, and an operator stands between two characters. -/
theorem three_le_length_of_ungrouped {mode : Comparison} {depth : Nat} {descend : Text → Traced Bool} {text : Text}
    {value : Bool} (known : (ungrouped mode depth descend text).outcome = .ok value) : 3 ≤ text.length := by
  cases found : Split.first? text with
  | some split =>
    have sides := Split.length_sides_le found
    have positive := Split.length_sides_pos found
    have symbol := List.length_pos_iff.mpr split.operator.symbol_ne_nil
    omega
  | none =>
    rw [ungrouped, found] at known
    obtain ⟨spelling, valid, shape, _⟩ := Boolean.ofText_eq_ok_iff.mp known
    obtain ⟨word, spelled⟩ := valid.exists_ofWord?
    have letters : spelling.word.length = (Boolean.word word).length := by
      rw [← Boolean.ofWord?_eq_some_iff.mp spelled, List.length_map]
    have whole : spelling.word.length ≤ (Text.trim text).length := by
      rw [shape, Boolean.Spelling.print, List.length_append]
      omega
    have trimmed := Text.length_trim_le text
    have four : 4 ≤ (Boolean.word word).length := by cases word <;> decide
    omega

/-- The word for a value is no longer than a group that has a value, with its parentheses. -/
theorem length_substitute_le {group : Text} (long : 3 ≤ group.length) (result : Bool) (text : Text) :
    (substitute group result text).length ≤ text.length := by
  refine Text.size_replaceAll_le (fun _ _ => List.length_append) (parenthesized_ne_nil group) ?_ text
  have five : (Boolean.word result).length ≤ 5 := by cases result <;> decide
  simp only [parenthesized, List.cons_append, List.length_cons, List.length_append, List.length_nil]
  omega

/-- Three characters for each level are not used up by the splits. -/
theorem upholds_short (mode : Comparison) (limit : Nat) :
    Upholds mode limit (fun levels _ text => Ungrouped text ∧ 0 < levels ∧ text.length ≤ 3 * levels)
      (fun _ => True) (fun e => ¬ e.IsLimit) := by
  apply Upholds.of_isOperand
  · exact fun _ operand => operand.not_isLimit
  · exact fun _ _ _ here => here.1
  · rintro levels depth text split ⟨plain, _, short⟩ found truthful
    obtain ⟨left, right⟩ := Split.ungrouped_sides plain found
    have sides := Split.length_sides_le found
    have positive := Split.length_sides_pos found
    have symbol := Operator.length_symbol truthful
    exact ⟨⟨left, by omega, by omega⟩, ⟨right, by omega, by omega⟩⟩
  · exact fun _ _ _ _ _ _ => trivial
  · rintro depth text ⟨_, positive, _⟩
    omega

/-- The evaluation of a text does not come to a limit, if it is this one. -/
def IsEnough (mode : Comparison) (text : Text) (limit : Nat) : Prop :=
  0 < limit ∧ ∀ e, (reduce mode limit limit 1 text).outcome = .error e → ¬ e.IsLimit

theorem isEnough_of_short (mode : Comparison) {limit : Nat} (positive : 0 < limit) {text : Text}
    (short : text.length ≤ 3 * limit) : IsEnough mode text limit := by
  obtain ⟨levels, rfl⟩ := Nat.exists_eq_succ_of_ne_zero positive.ne'
  have upholds := upholds_short mode (levels + 1)
  refine ⟨positive, fun e failed => ?_⟩
  rw [reduce] at failed
  have whole : (reduceGroups (ungrouped mode 1 (reduce mode (levels + 1) levels 2)) 1 text).Within
      (fun _ => True) fun e => ¬ e.IsLimit := by
    apply Traced.Within.reduceGroups fun text => text.length ≤ 3 * (levels + 1)
    · exact fun _ _ _ failed => (isGrouping_of_search failed).not_isLimit
    · exact fun text short plain => upholds.ungrouped levels 1 (fun text here => upholds.reduce levels 2 here)
        ⟨plain, by omega, short⟩
    · intro text group short found
      exact (group_occurs found).length_le.trans short
    · intro text group result short found known
      exact ⟨trivial, (length_substitute_le (three_le_length_of_ungrouped known) result text).trans short⟩
    · exact short
  exact whole.errors e failed

/-! ## The least limit that is enough -/

/-- A limit that is enough for a text. Under any larger one the evaluation is the same, and under any smaller one the
    error is that of the limit, so there is no smaller one that is enough. -/
structure IsNeeded (mode : Comparison) (text : Text) (need : Nat) : Prop where
  enough : IsEnough mode text need
  same : ∀ limit, need ≤ limit → reduce mode limit limit 1 text = reduce mode need need 1 text
  exceeded : ∀ limit, limit < need → 0 < limit →
    ∃ t, (reduce mode limit limit 1 text).outcome = .error (.limitExceeded limit t)
  short : ∀ limit, 0 < limit → text.length ≤ 3 * limit → need ≤ limit

theorem exists_isNeeded (mode : Comparison) (text : Text) : ∃ need, IsNeeded mode text need := by
  classical
  have attained : ∃ limit, IsEnough mode text limit := ⟨text.length + 1, isEnough_of_short mode (by omega) (by omega)⟩
  have enough := Nat.find_spec attained
  refine ⟨Nat.find attained, ⟨enough, ?_, ?_, ?_⟩⟩
  · intro limit more
    rcases reduce_extends mode (Nat.find attained) limit more 1 text with ⟨t, exceeded⟩ | ⟨same, _⟩
    · exact absurd trivial (enough.2 _ exceeded)
    · exact same.symm
  · intro limit less positive
    rcases reduce_extends mode limit (Nat.find attained) (Nat.le_of_lt less) 1 text with exceeded | ⟨_, others⟩
    · exact exceeded
    · exact absurd ⟨positive, others⟩ (Nat.find_min attained less)
  · intro limit positive few
    exact Nat.find_min' attained (isEnough_of_short mode positive few)

namespace Evaluator

/-- Every expression needs a limit of some size. Under any limit of at least this size it is evaluated in the same way,
    with the same reports, and the limit is not exceeded; under any smaller one it is. A third of the length of the
    expression is enough, and nothing is reported at a greater depth. -/
theorem exists_needed_limit (mode : Comparison) (expression : Text) :
    ∃ need : Nat, 1 ≤ need ∧
      (∃ final : Traced Bool, (∀ limit text, final.outcome ≠ .error (.limitExceeded limit text)) ∧
        ∀ limit : UInt64, limit ≠ 0 → need ≤ limit.toNat → trace ⟨⟨mode, limit⟩⟩ expression = final) ∧
      (∀ limit : UInt64, limit ≠ 0 → limit.toNat < need →
        ∃ text, evaluate ⟨⟨mode, limit⟩⟩ expression = .error (.limitExceeded limit.toNat text)) ∧
      (∀ limit : Nat, 1 ≤ limit → expression.length ≤ 3 * limit → need ≤ limit) ∧
      ∀ limit : UInt64, limit ≠ 0 →
        ∀ cut depth, .split cut depth ∈ (trace ⟨⟨mode, limit⟩⟩ expression).events → depth ≤ need := by
  by_cases blank : Text.IsBlank expression
  · have nothing : ∀ limit, trace ⟨⟨mode, limit⟩⟩ expression = .fail .emptyInput :=
      fun limit => trace_of_isBlank _ blank
    refine ⟨1, Nat.le_refl 1, ⟨_, by simp, fun limit _ _ => nothing limit⟩, ?_, ?_, ?_⟩
    · intro limit positive less
      have more := toNat_limit_pos positive
      omega
    · exact fun limit positive _ => positive
    · intro limit _ cut depth mem
      simp [nothing, Traced.fail] at mem
  · obtain ⟨need, needed⟩ := exists_isNeeded mode expression
    have shape : ∀ limit : UInt64, trace ⟨⟨mode, limit⟩⟩ expression =
        (reduce mode limit.toNat limit.toNat 1 expression).onError (.failed expression) :=
      fun limit => trace_of_not_isBlank _ blank
    refine ⟨need, needed.enough.1, ⟨(reduce mode need need 1 expression).onError (.failed expression), ?_, ?_⟩, ?_,
      needed.short, ?_⟩
    · intro limit text failed
      rw [Traced.outcome_onError] at failed
      exact needed.enough.2 _ failed trivial
    · intro limit _ enough
      rw [shape, needed.same _ enough]
    · intro limit nonzero less
      rw [evaluate_of_not_isBlank _ blank]
      exact needed.exceeded _ less (toNat_limit_pos nonzero)
    · intro limit nonzero cut depth mem
      by_cases enough : need ≤ limit.toNat
      · have within := (mem_of_mem_trace _ mem).resolve_right (by simp)
        rw [needed.same _ enough] at within
        exact (isWithin_of_mem mode needed.enough.1 expression _ within).2.2
      · obtain ⟨_, _, within⟩ := isWithin_of_mem_trace _ nonzero expression _ mem
        have here : depth ≤ limit.toNat := within
        omega

/-- The expression has six characters, so it needs two levels at most, and more change nothing. -/
theorem exists_needed_limit_short :
    trace ⟨⟨.ordinal, 0xffffffffffffffff⟩⟩ "1<2||x".toList = trace ⟨⟨.ordinal, 2⟩⟩ "1<2||x".toList := by
  obtain ⟨need, _, ⟨final, _, same⟩, _, short, _⟩ := exists_needed_limit .ordinal "1<2||x".toList
  have two : need ≤ 2 := short 2 (by decide) (by decide)
  exact (same 0xffffffffffffffff (by decide) (two.trans (by decide))).trans (same 2 (by decide) two).symm

end Evaluator
end Verdict
