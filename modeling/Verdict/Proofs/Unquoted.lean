import Verdict.Proofs.Group.Reduction
import Verdict.Proofs.Literals
import Verdict.Proofs.Sides

/-!
# Expressions without strings

How strings are compared makes no difference where there are none. The texts that an evaluation goes through are parts
of the expression in which words stand for the values of groups, and there is no quote in a word, so nothing is ever
compared as a string (`reduce_congr`).
-/
namespace Verdict

/-- A text without quotes. -/
def Unquoted (text : Text) : Prop :=
  '"' ∉ text

namespace Unquoted

variable {text part group : Text} {split : Split}

theorem of_occurs (unquoted : Unquoted text) (occurs : part <:+: text) : Unquoted part :=
  fun mem => unquoted (occurs.subset mem)

theorem sides (unquoted : Unquoted text) (found : Split.first? text = some split) :
    Unquoted split.left ∧ Unquoted split.right :=
  ⟨unquoted.of_occurs (Split.sides_occur found).1, unquoted.of_occurs (Split.sides_occur found).2⟩

/-- No word for a value has a quote in it. -/
theorem substitute (unquoted : Unquoted text) (group : Text) (result : Bool) :
    Unquoted (substitute group result text) := by
  intro mem
  rcases Text.mem_of_mem_replaceAll (parenthesized_ne_nil group) mem with old | new
  · exact unquoted old
  · cases result <;> simp [Boolean.word] at new

theorem ofText_ne_quoted (unquoted : Unquoted text) (string : Text) : Operand.ofText text ≠ .quoted string := by
  intro read
  rcases Operand.ofText_cases text with ⟨quoted, _⟩ | ⟨value, _, decimal⟩ | bare
  · exact unquoted (List.mem_of_head? quoted.1)
  · simp [decimal] at read
  · simp [bare] at read

end Unquoted

/-! ## Two ways to compare -/

section

variable {descend descend' value value' : Text → Traced Bool} {text : Text} {split : Split}

section

variable (mode mode' : Comparison)

/-- The comparison is only asked about two strings. -/
theorem Operand.equals_congr {left : Operand} (bare : ∀ string, left ≠ .quoted string) (expression : Text)
    (op : Operator) (right : Operand) :
    equals mode expression op left right = equals mode' expression op left right := by
  cases left with
  | quoted string => exact absurd rfl (bare string)
  | decimal value => cases right <;> rfl
  | bare text => cases right <;> rfl

variable (left : descend split.left = descend' split.left) (right : descend split.right = descend' split.right)
include left right

theorem equality_congr (unquoted : Unquoted split.left) :
    equality mode descend text split = equality mode' descend' text split := by
  simp only [equality, operandValue, left, right, Operand.equals_congr mode mode' unquoted.ofText_ne_quoted]

theorem splitValue_congr (unquoted : Unquoted split.left) :
    splitValue mode descend text split = splitValue mode' descend' text split := by
  simp only [splitValue, left, right, equality_congr mode mode' left right unquoted]

omit left right

theorem ungrouped_congr (deeper : ∀ text, Unquoted text → descend text = descend' text) (unquoted : Unquoted text)
    (depth : Nat) : ungrouped mode depth descend text = ungrouped mode' depth descend' text := by
  unfold ungrouped
  cases found : Split.first? text with
  | none => rfl
  | some split =>
    obtain ⟨left, right⟩ := unquoted.sides found
    simp only [splitValue_congr mode mode' (deeper _ left) (deeper _ right) left]

end

/-- The values of the groups decide how the text goes on, and they are the same. -/
theorem reduceGroups_congr (groups : ∀ text, Unquoted text → value text = value' text) (unquoted : Unquoted text)
    (depth : Nat) : reduceGroups value depth text = reduceGroups value' depth text := by
  refine reduceGroups_induction
    (motive := fun text traced => Unquoted text → traced = reduceGroups value' depth text) ?_ ?_ ?_ ?_ text unquoted
  · intro text error found _
    rw [reduceGroups_eq, found]
  · intro text plain unquoted
    rw [reduceGroups_of_ungrouped _ _ plain, groups text unquoted]
  · intro text group error found failed unquoted
    have same := groups group (unquoted.of_occurs (group_occurs found))
    rw [same] at failed ⊢
    rw [reduceGroups_of_failed found failed]
  · intro text group result found known rest behind unquoted
    have same := groups group (unquoted.of_occurs (group_occurs found))
    rw [same] at known ⊢
    rw [reduceGroups_of_reduced found known, behind (unquoted.substitute group result)]

end

/-- Without quotes, nothing that happens on any level depends on how strings are compared. -/
theorem reduce_congr (mode mode' : Comparison) (limit levels depth : Nat) {text : Text} (unquoted : Unquoted text) :
    reduce mode limit levels depth text = reduce mode' limit levels depth text := by
  induction levels generalizing depth text with
  | zero => rfl
  | succ levels ih =>
    have groups : ∀ text, Unquoted text → ungrouped mode depth (reduce mode limit levels (depth + 1)) text =
        ungrouped mode' depth (reduce mode' limit levels (depth + 1)) text :=
      fun text unquoted => ungrouped_congr mode mode' (fun text unquoted => ih (depth + 1) unquoted) unquoted depth
    rw [reduce, reduce]
    exact reduceGroups_congr groups unquoted depth

namespace Evaluator

/-- An expression without quotes comes to the same under every comparison, be it a value or an error with its texts,
    and the same is reported on the way. -/
theorem evaluate_eq_of_not_mem_quote {expression : Text} (unquoted : '"' ∉ expression) (mode mode' : Comparison)
    (limit : UInt64) :
    evaluate ⟨⟨mode, limit⟩⟩ expression = evaluate ⟨⟨mode', limit⟩⟩ expression ∧
      (trace ⟨⟨mode, limit⟩⟩ expression).events = (trace ⟨⟨mode', limit⟩⟩ expression).events := by
  have same : trace ⟨⟨mode, limit⟩⟩ expression = trace ⟨⟨mode', limit⟩⟩ expression := by
    unfold trace
    dsimp only
    rw [reduce_congr mode mode' _ _ _ unquoted]
  exact ⟨congrArg Traced.outcome same, congrArg Traced.events same⟩

/-- The value of the first group is in the text whose second group fails. -/
theorem evaluate_eq_of_not_mem_quote_failing :
    let expression := "(1 < 2) == (x != true)".toList
    '"' ∉ expression ∧
      evaluate ⟨⟨.cultureAware, 2⟩⟩ expression = .error (.invalidBoolean ['x']) ∧
      (trace ⟨⟨.cultureAware, 2⟩⟩ expression).events = (trace ⟨⟨.ordinal, 2⟩⟩ expression).events := by
  intro expression
  have unquoted : '"' ∉ expression := by decide
  have failed : evaluate ⟨⟨.ordinal, 2⟩⟩ expression = .error (.invalidBoolean ['x']) := by decide +kernel
  obtain ⟨outcome, events⟩ := evaluate_eq_of_not_mem_quote unquoted .cultureAware .ordinal 2
  exact ⟨unquoted, outcome.trans failed, events⟩

end Evaluator
end Verdict
