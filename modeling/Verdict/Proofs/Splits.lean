import Verdict.Proofs.Joined
import Verdict.Proofs.Padding

/-!
# The first split of joined texts

Texts joined by operators split at the first copy of the operator among them that binds least (`first?_join`). What
comes of the split is the value of the whole.
-/
namespace Verdict

namespace Split

theorem at?_of_not_occurs {text : Text} {op : Operator} (absent : ¬ op.symbol <:+: text) : at? text op = none := by
  rw [at?, Text.cut?_eq_none_iff.mpr absent]

theorem first?_of_not_occursIn {text : Text} (free : ¬ Operator.OccursIn text) : first? text = none :=
  List.findSome?_eq_none_iff.mpr fun op _ => at?_of_not_occurs fun inside => free ⟨op, inside⟩

/-- A text splits at an operator if none that binds less occurs in it. -/
theorem first?_eq_some {op : Operator} {looser tighter : List Operator}
    (order : Operator.precedence = looser ++ op :: tighter) {text before after : Text}
    (absent : ∀ other ∈ looser, ¬ other.symbol <:+: text) (cut : Text.cut? op.symbol text = some (before, after))
    (left : ¬ Text.IsBlank before) (right : ¬ Text.IsBlank after) :
    first? text = some ⟨op, Text.trim before, Text.trim after⟩ := by
  have passed : looser.findSome? (at? text) = none :=
    List.findSome?_eq_none_iff.mpr fun other mem => at?_of_not_occurs (absent other mem)
  have sides : ¬ (Text.trim before = [] ∨ Text.trim after = []) := by
    rw [Text.trim_eq_nil_iff, Text.trim_eq_nil_iff]
    exact not_or.mpr ⟨left, right⟩
  rw [first?, order, List.findSome?_append, passed, Option.none_or, List.findSome?_cons, at?, cut]
  simp only [if_neg sides]

/-- A text splits at an operator if it splits at no other one. -/
theorem first?_eq_some_of_unique {text : Text} {split : Split} (here : at? text split.operator = some split)
    (others : ∀ op ≠ split.operator, at? text op = none) : first? text = some split := by
  cases found : first? text with
  | none =>
    have passed := List.findSome?_eq_none_iff.mp found split.operator (Operator.mem_precedence _)
    exact absurd (passed.symm.trans here) (by simp)
  | some other =>
    have there := at?_of_first? found
    by_cases same : other.operator = split.operator
    · rw [same] at there
      exact there.symm.trans here
    · exact absurd ((others _ same).symm.trans there) (by simp)

/-- A text that is not blank, does not meet an operator at its ends, and has none of some operators in it. -/
structure Side (ops : List Operator) (text : Text) : Prop where
  guarded : Operator.Guarded text
  notBlank : ¬ Text.IsBlank text
  free : ∀ op ∈ ops, ¬ op.symbol <:+: text

theorem not_isBlank_join {first : Text} (notBlank : ¬ Text.IsBlank first) (rest : List (Operator × Text)) :
    ¬ Text.IsBlank (Operator.join first rest) := by
  obtain ⟨more, shape⟩ := Operator.exists_join_eq_append first rest
  rw [shape]
  exact fun blank => notBlank (blank.of_subset (List.subset_append_left _ _))

/-- Joined texts split at the first operator of those that bind least, if no text has one of these in it. -/
theorem first?_join {op : Operator} {looser tighter : List Operator}
    (order : Operator.precedence = looser ++ op :: tighter) {first text : Text}
    {before after : List (Operator × Text)} (one : Side (op :: looser) first)
    (front : ∀ joined ∈ before, joined.1 ∈ tighter ∧ Side (op :: looser) joined.2)
    (two : Side (op :: looser) text)
    (back : ∀ joined ∈ after, joined.1 ∈ op :: tighter ∧ Side (op :: looser) joined.2) :
    first? (Operator.join first (before ++ (op, text) :: after)) =
      some ⟨op, Text.trim (Operator.join first before), Text.trim (Operator.join text after)⟩ := by
  have pairs := Operator.pairwise_precedence
  rw [order] at pairs
  obtain ⟨_, later, apart⟩ := List.pairwise_append.mp pairs
  have after_op := (List.pairwise_cons.mp later).1
  refine first?_eq_some order ?_ (Operator.cut?_join ⟨one.guarded, one.free op (by simp)⟩ ?_)
    (not_isBlank_join one.notBlank before) (not_isBlank_join two.notBlank after)
  · intro other mem
    refine Operator.not_occurs_join ⟨one.guarded, one.free other (by simp [mem])⟩ fun joined listed => ?_
    have side : joined.1 ∈ op :: tighter ∧ Side (op :: looser) joined.2 := by
      rcases List.mem_append.mp listed with listed | listed
      · exact ⟨List.mem_cons_of_mem _ (front joined listed).1, (front joined listed).2⟩
      · rcases List.mem_cons.mp listed with rfl | listed
        · exact ⟨by simp, two⟩
        · exact back joined listed
    exact ⟨apart other mem joined.1 side.1, side.2.guarded, side.2.free other (by simp [mem])⟩
  · intro joined mem
    obtain ⟨tight, side⟩ := front joined mem
    exact ⟨after_op joined.1 tight, side.guarded, side.free op (by simp)⟩

end Split

/-! ## What comes of a split -/

theorem outcome_ungrouped_of_none (mode : Comparison) (depth : Nat) (descend : Text → Traced Bool) {text : Text}
    (unsplit : Split.first? text = none) : (ungrouped mode depth descend text).outcome = Boolean.ofText text := by
  rw [ungrouped, unsplit]
  rfl

theorem outcome_ungrouped_of_split (mode : Comparison) (depth : Nat) (descend : Text → Traced Bool) {text : Text}
    {split : Split} (found : Split.first? text = some split) :
    (ungrouped mode depth descend text).outcome = (splitValue mode descend text split).outcome := by
  rw [ungrouped, found]
  rfl

end Verdict
