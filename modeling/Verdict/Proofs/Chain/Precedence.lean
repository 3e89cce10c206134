import Verdict.Chain

/-!
# The conventional value of a chain

Cutting a chain at any of the operators that bind least in it, and applying that operator to the values of both sides,
gives the value of the chain. For the equalities this is so although they go from left to right: each of them turns
the value around or not, and the order does not matter.
-/
namespace Verdict.Chain

/-- No operator of the rest is one of these. -/
def Without {α : Type} (ops : List Operator) (rest : List (Operator × α)) : Prop :=
  ∀ joined ∈ rest, joined.1 ∉ ops

namespace Without

variable {α β : Type} {ops : List Operator} {before after rest : List (Operator × α)} {op : Operator} {item : α}

theorem tail (without : Without ops ((op, item) :: rest)) : Without ops rest :=
  fun joined mem => without joined (List.mem_cons_of_mem _ mem)

theorem of_subset {others : List Operator} (without : Without ops rest) (subset : others ⊆ ops) : Without others rest :=
  fun joined mem listed => without joined mem (subset listed)

theorem map (without : Without ops rest) (f : α → β) : Without ops (rest.map (Prod.map id f)) := by
  intro joined mem
  obtain ⟨other, listed, rfl⟩ := List.mem_map.mp mem
  exact without other listed

theorem sides (without : Without ops (before ++ (op, item) :: after)) : Without ops before ∧ Without ops after :=
  ⟨fun joined mem => without joined (by simp [mem]), fun joined mem => without joined (by simp [mem])⟩

end Without

variable {before after rest : List (Operator × Bool)} {op : Operator} {value : Bool}

namespace Reading

/-- What is known of the alternatives is an alternative of its own. -/
theorem finish_or (o a e : Bool) (rest : List (Operator × Bool)) :
    finish ⟨o, a, e⟩ rest = (o || finish ⟨false, a, e⟩ rest) := by
  induction rest generalizing o a e with
  | nil => simp [finish]
  | cons head rest ih =>
    obtain ⟨op, value⟩ := head
    cases op with
    | or =>
      show finish ⟨o || a && e, true, value⟩ rest = (o || finish ⟨false || a && e, true, value⟩ rest)
      rw [ih, ih (false || a && e), Bool.false_or, Bool.or_assoc]
    | and | ne | eq | ge | le | gt | lt => exact ih o _ _

/-- What is known of the conjunction applies to what follows, up to the next alternative. -/
theorem finish_and (a e : Bool) (without : Without [.or] rest) :
    finish ⟨false, a, e⟩ rest = (a && finish ⟨false, true, e⟩ rest) := by
  induction rest generalizing a e with
  | nil => simp [finish]
  | cons head rest ih =>
    obtain ⟨op, value⟩ := head
    cases op with
    | or => exact absurd (by simp) (without _ (List.mem_cons_self ..))
    | and =>
      show finish ⟨false, a && e, value⟩ rest = (a && finish ⟨false, true && e, value⟩ rest)
      rw [ih (a && e) value without.tail, ih (true && e) value without.tail, Bool.true_and, Bool.and_assoc]
    | ne | eq | ge | le | gt | lt => exact ih a _ without.tail

/-- Turning the first value of equalities around turns their value around. -/
theorem finish_bne (e x : Bool) (without : Without [.or, .and] rest) :
    finish ⟨false, true, e != x⟩ rest = (finish ⟨false, true, e⟩ rest != x) := by
  induction rest generalizing e with
  | nil => simp [finish]
  | cons head rest ih =>
    obtain ⟨op, value⟩ := head
    cases op with
    | or | and => exact absurd (by simp) (without _ (List.mem_cons_self ..))
    | ne =>
      have swap : ((e != x) != value) = ((e != value) != x) := by cases e <;> cases x <;> cases value <;> rfl
      show finish ⟨false, true, (e != x) != value⟩ rest = (finish ⟨false, true, e != value⟩ rest != x)
      rw [swap, ih _ without.tail]
    | eq | ge | le | gt | lt =>
      have swap : ((e != x) == value) = ((e == value) != x) := by cases e <;> cases x <;> cases value <;> rfl
      show finish ⟨false, true, (e != x) == value⟩ rest = (finish ⟨false, true, e == value⟩ rest != x)
      rw [swap, ih _ without.tail]

end Reading

theorem conventional_or (first : Bool) :
    conventional first (before ++ (.or, value) :: after) = (conventional first before || conventional value after) := by
  have front : ∀ reading : Reading,
      reading.finish (before ++ (.or, value) :: after) = (reading.finish before || conventional value after) := by
    induction before with
    | nil => exact fun reading => Reading.finish_or _ _ _ after
    | cons head before ih => exact fun reading => ih (reading.join head.1 head.2)
  exact front _

theorem conventional_and (first : Bool) (left : Without [.or] before) (right : Without [.or] after) :
    conventional first (before ++ (.and, value) :: after) =
      (conventional first before && conventional value after) := by
  have front : ∀ a e, Reading.finish ⟨false, a, e⟩ (before ++ (.and, value) :: after) =
      (Reading.finish ⟨false, a, e⟩ before && conventional value after) := by
    induction before with
    | nil => exact fun a e => Reading.finish_and (a && e) value right
    | cons head before ih =>
      intro a e
      obtain ⟨op, v⟩ := head
      cases op with
      | or => exact absurd (by simp) (left _ (List.mem_cons_self ..))
      | and | ne | eq | ge | le | gt | lt => exact ih left.tail _ _
  exact front _ _

/-- The equalities behind an inequality may be taken together first. -/
theorem conventional_ne (first : Bool) (left : Without [.or, .and] before) (right : Without [.or, .and] after) :
    conventional first (before ++ (.ne, value) :: after) =
      (conventional first before != conventional value after) := by
  unfold conventional
  induction before generalizing first with
  | nil =>
    show Reading.finish ⟨false, true, first != value⟩ after = (first != Reading.finish ⟨false, true, value⟩ after)
    rw [bne_comm, Reading.finish_bne value first right, bne_comm]
  | cons head before ih =>
    obtain ⟨op, v⟩ := head
    cases op with
    | or | and => exact absurd (by simp) (left _ (List.mem_cons_self ..))
    | ne | eq | ge | le | gt | lt => exact ih _ left.tail

/-- The equalities behind an equality may be taken together first. -/
theorem conventional_eq (first : Bool) (left : Without [.or, .and] before) (right : Without [.or, .and] after) :
    conventional first (before ++ (.eq, value) :: after) =
      (conventional first before == conventional value after) := by
  unfold conventional
  induction before generalizing first with
  | nil =>
    have turn : (first == value) = (value != !first) := by cases first <;> cases value <;> rfl
    show Reading.finish ⟨false, true, first == value⟩ after = (first == Reading.finish ⟨false, true, value⟩ after)
    rw [turn, Reading.finish_bne value (!first) right]
    cases first <;> simp
  | cons head before ih =>
    obtain ⟨op, v⟩ := head
    cases op with
    | or | and => exact absurd (by simp) (left _ (List.mem_cons_self ..))
    | ne | eq | ge | le | gt | lt => exact ih _ left.tail

/-- The value of an operator between two truth values. -/
def combine : Operator → Bool → Bool → Bool
  | .or, a, b => a || b
  | .and, a, b => a && b
  | .ne, a, b => a != b
  | _, a, b => a == b

/-- The operators that bind less than one. -/
def looser (op : Operator) : List Operator :=
  Operator.precedence.takeWhile (· != op)

theorem conventional_append (first : Bool) (logical : op.isRelational = false)
    (without : Without (looser op) (before ++ (op, value) :: after)) :
    conventional first (before ++ (op, value) :: after) =
      combine op (conventional first before) (conventional value after) := by
  obtain ⟨left, right⟩ := without.sides
  cases op with
  | or => exact conventional_or first
  | and => exact conventional_and first left right
  | ne => exact conventional_ne first left right
  | eq =>
    have less : [.or, .and] ⊆ looser .eq := by decide
    exact conventional_eq first (left.of_subset less) (right.of_subset less)
  | ge | le | gt | lt => simp [Operator.isRelational] at logical

end Verdict.Chain
