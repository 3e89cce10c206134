import Verdict.Group

/-!
# Matching parentheses

When the parentheses of a text match: no closing one stands before its partner, and as many are closed as are opened.
A scan that counts what is open decides it (`depthAfter?_eq_some_iff`). Texts whose parentheses match may be joined
and put into parentheses.
-/
namespace Verdict

/-- Every closing parenthesis has an opening one before it, and the other way round. -/
structure Balanced (text : Text) : Prop where
  closed_le : ∀ front, front <+: text → front.count ')' ≤ front.count '('
  closed_eq : text.count ')' = text.count '('

/-- An opening parenthesis with its partner right behind it. -/
def emptyPair : Text :=
  ['(', ')']

/-- The parentheses match, and something stands between the two of each pair. -/
def WellGrouped (text : Text) : Prop :=
  Balanced text ∧ ¬ emptyPair <:+: text

/-- How many parentheses are open behind a text, if `depth` are open before it and none is closed too many. -/
def depthAfter? (depth : Nat) : Text → Option Nat
  | [] => some depth
  | c :: rest =>
    if c = '(' then depthAfter? (depth + 1) rest
    else if c = ')' then (if depth = 0 then none else depthAfter? (depth - 1) rest)
    else depthAfter? depth rest

theorem depthAfter?_eq_some_iff {depth last : Nat} {text : Text} :
    depthAfter? depth text = some last ↔
      (∀ front, front <+: text → front.count ')' ≤ depth + front.count '(') ∧
        last + text.count ')' = depth + text.count '(' := by
  induction text generalizing depth with
  | nil =>
    simp only [depthAfter?, Option.some.injEq, List.prefix_nil, forall_eq, List.count_nil]
    omega
  | cons c rest ih =>
    have fronts : (∀ front, front <+: c :: rest → front.count ')' ≤ depth + front.count '(') ↔
        ∀ front, front <+: rest → (c :: front).count ')' ≤ depth + (c :: front).count '(' := by
      constructor
      · intro all front here
        exact all _ (List.cons_prefix_cons.mpr ⟨rfl, here⟩)
      · intro all front here
        cases front with
        | nil => simp
        | cons d front =>
          obtain ⟨rfl, tail⟩ := List.cons_prefix_cons.mp here
          exact all front tail
    rw [fronts, depthAfter?]
    by_cases opens : c = '('
    · subst opens
      rw [if_pos rfl, ih]
      simp only [List.count_cons]
      constructor
      · rintro ⟨all, total⟩
        exact ⟨fun front here => by have := all front here; simp; omega, by simp; omega⟩
      · rintro ⟨all, total⟩
        exact ⟨fun front here => by have := all front here; simp at this; omega, by simp at total; omega⟩
    · by_cases closes : c = ')'
      · subst closes
        rw [if_neg opens, if_pos rfl]
        by_cases zero : depth = 0
        · subst zero
          simp only [if_pos, reduceCtorEq, false_iff, not_and]
          intro all
          have := all [] (List.nil_prefix)
          simp at this
        · rw [if_neg zero, ih]
          simp only [List.count_cons]
          constructor
          · rintro ⟨all, total⟩
            exact ⟨fun front here => by have := all front here; simp; omega, by simp; omega⟩
          · rintro ⟨all, total⟩
            exact ⟨fun front here => by have := all front here; simp at this; omega, by simp at total; omega⟩
      · rw [if_neg opens, if_neg closes, ih]
        simp [opens, closes]

theorem balanced_iff {text : Text} : Balanced text ↔ depthAfter? 0 text = some 0 := by
  rw [depthAfter?_eq_some_iff]
  simp only [Nat.zero_add]
  exact ⟨fun ⟨le, eq⟩ => ⟨le, eq⟩, fun ⟨le, eq⟩ => ⟨le, eq⟩⟩

instance (text : Text) : Decidable (Balanced text) :=
  decidable_of_iff _ balanced_iff.symm

instance (text : Text) : Decidable (WellGrouped text) :=
  inferInstanceAs (Decidable (_ ∧ _))

theorem depthAfter?_append (depth : Nat) (a b : Text) :
    depthAfter? depth (a ++ b) = (depthAfter? depth a).bind fun between => depthAfter? between b := by
  induction a generalizing depth with
  | nil => rfl
  | cons c rest ih =>
    rw [List.cons_append, depthAfter?, depthAfter?]
    split
    · exact ih _
    · split
      · split
        · rfl
        · exact ih _
      · exact ih _

theorem depthAfter?_add {depth last : Nat} {text : Text} (scan : depthAfter? depth text = some last) (more : Nat) :
    depthAfter? (depth + more) text = some (last + more) := by
  rw [depthAfter?_eq_some_iff] at scan ⊢
  exact ⟨fun front here => by have := scan.1 front here; omega, by omega⟩

/-- A text whose parentheses match leaves every depth as it is. -/
theorem Balanced.depthAfter?_eq {text : Text} (balanced : Balanced text) (depth : Nat) :
    depthAfter? depth text = some depth := by
  simpa using depthAfter?_add (balanced_iff.mp balanced) depth

theorem Balanced.append {a b : Text} (left : Balanced a) (right : Balanced b) : Balanced (a ++ b) := by
  rw [balanced_iff] at *
  rw [depthAfter?_append, left]
  exact right

theorem Balanced.parenthesized {text : Text} (inner : Balanced text) : Balanced (parenthesized text) := by
  rw [balanced_iff]
  simp [Verdict.parenthesized, depthAfter?, depthAfter?_append, inner.depthAfter?_eq 1]

/-- A text without parentheses. -/
def Ungrouped (text : Text) : Prop :=
  '(' ∉ text ∧ ')' ∉ text

instance (text : Text) : Decidable (Ungrouped text) :=
  inferInstanceAs (Decidable (_ ∧ _))

theorem Ungrouped.balanced {text : Text} (plain : Ungrouped text) : Balanced text := by
  refine ⟨fun front here => ?_, ?_⟩
  · rw [List.count_eq_zero.mpr fun mem => plain.2 (here.subset mem)]
    exact Nat.zero_le _
  · rw [List.count_eq_zero.mpr plain.1, List.count_eq_zero.mpr plain.2]

end Verdict
