import Mathlib.Data.List.Infix
import Verdict.Operator.Pieces
import Verdict.Proofs.Text.Copies

/-!
# Texts with operators between them

Where texts are joined by operators, and no operator reaches across an end of any of them, an operator that is in none
of the texts is found exactly where it joins two of them: the cut at it is the first such place (`cut?_join`), and
cutting at every copy of every operator gives the texts back (`pieces_join`).
-/
namespace Verdict.Operator

/-- The text does not begin with what ends an operator, and does not end with what begins one. -/
structure Guarded (text : Text) : Prop where
  nonempty : text ≠ []
  first : ∀ c ∈ text.head?, ∀ op : Operator, c ∉ op.symbol.tail
  last : ∀ c ∈ text.getLast?, ∀ op : Operator, op.symbol.head? ≠ some c

/-- The first text, and behind it the others, each behind its operator. -/
def join (first : Text) : List (Operator × Text) → Text
  | [] => first
  | (op, text) :: rest => first ++ (op.symbol ++ join text rest)

theorem symbol_cases (op : Operator) : (∃ p, op.symbol = [p]) ∨ ∃ p q, op.symbol = [p, q] := by
  cases op <;> simp [symbol]

/-! ## Where an operator may start -/

theorem Guarded.not_startsIn {op : Operator} {text : Text} (guarded : Guarded text) (absent : ¬ op.symbol <:+: text)
    (rest : Text) : ¬ Text.StartsIn op.symbol text rest := by
  intro starts
  rcases symbol_cases op with ⟨p, one⟩ | ⟨p, q, two⟩
  · rw [one] at starts absent
    refine Text.not_startsIn_of_not_mem (fun mem => absent ?_) starts
    exact (List.singleton_infix_iff p _).mpr mem
  · rw [two] at starts absent
    rcases starts.of_pair with inside | ⟨last, _⟩
    · exact absent inside
    · exact guarded.last p last op (by simp [two])

/-- No operator starts within another one, if the text behind does not let it end. -/
theorem Guarded.not_startsIn_symbol {op other : Operator} {text : Text} (guarded : Guarded text)
    (absent : ¬ op.symbol <:+: other.symbol) (rest : Text) :
    ¬ Text.StartsIn op.symbol other.symbol (text ++ rest) := by
  intro starts
  rcases symbol_cases op with ⟨p, one⟩ | ⟨p, q, two⟩
  · rw [one] at starts absent
    refine Text.not_startsIn_of_not_mem (fun mem => absent ?_) starts
    exact (List.singleton_infix_iff p _).mpr mem
  · rw [two] at starts absent
    rcases starts.of_pair with inside | ⟨_, second⟩
    · exact absent inside
    · obtain ⟨c, tail, rfl⟩ := List.exists_cons_of_ne_nil guarded.nonempty
      obtain rfl : c = q := by simpa using second
      exact guarded.first c rfl op (by simp [two])

/-! ## Joined texts -/

theorem join_append (first : Text) (before : List (Operator × Text)) (op : Operator) (text : Text)
    (after : List (Operator × Text)) :
    join first (before ++ (op, text) :: after) = join first before ++ (op.symbol ++ join text after) := by
  induction before generalizing first with
  | nil => rfl
  | cons head before ih => simp [join, ih]

theorem exists_join_eq_append (first : Text) (rest : List (Operator × Text)) :
    ∃ more, join first rest = first ++ more := by
  cases rest with
  | nil => exact ⟨[], by simp [join]⟩
  | cons head rest => exact ⟨head.1.symbol ++ join head.2 rest, rfl⟩

theorem Guarded.join {first : Text} {rest : List (Operator × Text)} (guarded : Guarded first)
    (others : ∀ joined ∈ rest, Guarded joined.2) : Guarded (join first rest) := by
  induction rest generalizing first with
  | nil => exact guarded
  | cons head rest ih =>
    obtain ⟨op, text⟩ := head
    have tail := ih (others (op, text) (by simp)) fun joined mem => others joined (by simp [mem])
    refine ⟨?_, ?_, ?_⟩
    · simp [Operator.join, guarded.nonempty]
    · obtain ⟨c, cs, rfl⟩ := List.exists_cons_of_ne_nil guarded.nonempty
      intro d mem
      exact guarded.first d (by simpa [Operator.join] using mem)
    · intro c mem
      refine tail.last c ?_
      have nonempty := tail.nonempty
      rw [Operator.join, Option.mem_def, List.getLast?_append_of_ne_nil _ (by simp [nonempty]),
        List.getLast?_append_of_ne_nil _ nonempty] at mem
      exact mem

/-- An operator that is in no text and in no operator of the others is not in the joined text. -/
theorem not_occurs_join {op : Operator} {first : Text} {rest : List (Operator × Text)}
    (guarded : Guarded first ∧ ¬ op.symbol <:+: first)
    (others : ∀ joined ∈ rest, ¬ op.symbol <:+: joined.1.symbol ∧ Guarded joined.2 ∧ ¬ op.symbol <:+: joined.2) :
    ¬ op.symbol <:+: join first rest := by
  induction rest generalizing first with
  | nil => exact guarded.2
  | cons head rest ih =>
    obtain ⟨other, text⟩ := head
    obtain ⟨apart, next⟩ := others (other, text) (by simp)
    obtain ⟨more, shape⟩ := exists_join_eq_append text rest
    have symbol := next.1.not_startsIn_symbol apart more
    rw [← shape] at symbol
    rw [join, Text.occurs_append_iff (guarded.1.not_startsIn guarded.2 _), Text.occurs_append_iff symbol]
    exact ih next fun joined mem => others joined (by simp [mem])

theorem cut?_join {op : Operator} {first text : Text} {before after : List (Operator × Text)}
    (guarded : Guarded first ∧ ¬ op.symbol <:+: first)
    (others : ∀ joined ∈ before, ¬ op.symbol <:+: joined.1.symbol ∧ Guarded joined.2 ∧ ¬ op.symbol <:+: joined.2) :
    Text.cut? op.symbol (join first (before ++ (op, text) :: after)) =
      some (join first before, join text after) := by
  have whole : Guarded (join first before) := guarded.1.join fun joined mem => (others joined mem).2.1
  rw [join_append]
  exact Text.cut?_append_pattern (whole.not_startsIn (not_occurs_join guarded others) _)

theorem pieces_symbol_join {op : Operator} {first text : Text} {before after : List (Operator × Text)}
    (guarded : Guarded first ∧ ¬ op.symbol <:+: first)
    (others : ∀ joined ∈ before, ¬ op.symbol <:+: joined.1.symbol ∧ Guarded joined.2 ∧ ¬ op.symbol <:+: joined.2) :
    Text.pieces op.symbol (join first (before ++ (op, text) :: after)) =
      join first before :: Text.pieces op.symbol (join text after) := by
  have whole : Guarded (join first before) := guarded.1.join fun joined mem => (others joined mem).2.1
  rw [join_append, Text.pieces_append_eq (whole.not_startsIn (not_occurs_join guarded others) _),
    Text.pieces_append op.symbol_ne_nil]
  simp

/-- The first of the operators that is a given one, if there is one. -/
theorem exists_first_join {α : Type} (op : Operator) (rest : List (Operator × α)) :
    (∀ joined ∈ rest, joined.1 ≠ op) ∨
      ∃ before item after, rest = before ++ (op, item) :: after ∧ ∀ joined ∈ before, joined.1 ≠ op := by
  induction rest with
  | nil => simp
  | cons head rest ih =>
    obtain ⟨other, item⟩ := head
    by_cases same : other = op
    · subst same
      exact .inr ⟨[], item, rest, rfl, by simp⟩
    · rcases ih with differ | ⟨before, next, after, rfl, differ⟩
      · exact .inl (by simpa [same] using differ)
      · exact .inr ⟨(other, item) :: before, next, after, rfl, by simpa [same] using differ⟩

/-! ## All pieces -/

/-- A symbol that is part of another one comes after it. -/
theorem pairwise_precedence : precedence.Pairwise fun op other => ¬ op.symbol <:+: other.symbol := by
  decide

theorem foldl_cutAll_append (ops : List Operator) (a b : List Text) :
    ops.foldl (fun texts op => op.cutAll texts) (a ++ b) =
      ops.foldl (fun texts op => op.cutAll texts) a ++ ops.foldl (fun texts op => op.cutAll texts) b := by
  induction ops generalizing a b with
  | nil => rfl
  | cons op ops ih =>
    have both : op.cutAll (a ++ b) = op.cutAll a ++ op.cutAll b := by simp [cutAll]
    rw [List.foldl_cons, both, ih]
    rfl

/-- The text neither meets an operator at its ends nor has one in it. -/
structure Clear (text : Text) : Prop where
  guarded : Guarded text
  free : ¬ OccursIn text

theorem Clear.absent {text : Text} (clear : Clear text) (op : Operator) : Guarded text ∧ ¬ op.symbol <:+: text :=
  ⟨clear.guarded, fun inside => clear.free ⟨op, inside⟩⟩

variable {op : Operator} {ops : List Operator} {first : Text} {rest : List (Operator × Text)}

/-- Where one operator does not join texts, the texts are joined by the others, and no copy of it is found. -/
theorem joined_of_ne (apart : ∀ other ∈ ops, ¬ op.symbol <:+: other.symbol)
    (others : ∀ joined ∈ rest, joined.1 ∈ op :: ops ∧ Clear joined.2) (differ : ∀ joined ∈ rest, joined.1 ≠ op) :
    (∀ joined ∈ rest, joined.1 ∈ ops ∧ Clear joined.2) ∧
      ∀ joined ∈ rest, ¬ op.symbol <:+: joined.1.symbol ∧ Guarded joined.2 ∧ ¬ op.symbol <:+: joined.2 := by
  have later : ∀ joined ∈ rest, joined.1 ∈ ops := by
    intro joined mem
    exact (List.mem_cons.mp (others joined mem).1).resolve_left (differ joined mem)
  constructor
  · intro joined mem
    exact ⟨later joined mem, (others joined mem).2⟩
  · intro joined mem
    exact ⟨apart _ (later joined mem), (others joined mem).2.absent op⟩

/-- Cutting at one operator undoes the joins by it, from the first one on. -/
theorem foldl_cutAll_pieces (apart : ∀ other ∈ ops, ¬ op.symbol <:+: other.symbol)
    (undo : ∀ {first : Text} {rest : List (Operator × Text)}, Clear first →
      (∀ joined ∈ rest, joined.1 ∈ ops ∧ Clear joined.2) →
        ops.foldl (fun texts op => op.cutAll texts) [join first rest] = first :: rest.map Prod.snd)
    (clear : Clear first) (others : ∀ joined ∈ rest, joined.1 ∈ op :: ops ∧ Clear joined.2) :
    ops.foldl (fun texts op => op.cutAll texts) (Text.pieces op.symbol (join first rest)) =
      first :: rest.map Prod.snd := by
  induction size : rest.length using Nat.strongRecOn generalizing first rest with
  | _ n ih =>
    rcases exists_first_join op rest with differ | ⟨before, text, after, rfl, differ⟩
    · obtain ⟨later, absent⟩ := joined_of_ne apart others differ
      rw [Text.pieces_of_not_occurs (not_occurs_join (clear.absent op) absent)]
      exact undo clear later
    · obtain ⟨later, absent⟩ := joined_of_ne apart (fun joined mem => others joined (by simp [mem])) differ
      have fewer : after.length < n := by
        rw [← size]
        simp
        omega
      have next := (others (op, text) (by simp)).2
      have back := ih after.length fewer next (fun joined mem => others joined (by simp [mem])) rfl
      rw [pieces_symbol_join (clear.absent op) absent, ← List.singleton_append, foldl_cutAll_append,
        undo clear later, back]
      simp

/-- Cutting at operators in the order of precedence undoes the joins by these operators. -/
theorem foldl_cutAll_join (order : ops.Pairwise fun op other => ¬ op.symbol <:+: other.symbol) (clear : Clear first)
    (others : ∀ joined ∈ rest, joined.1 ∈ ops ∧ Clear joined.2) :
    ops.foldl (fun texts op => op.cutAll texts) [join first rest] = first :: rest.map Prod.snd := by
  induction ops generalizing first rest with
  | nil =>
    cases rest with
    | nil => rfl
    | cons head rest => simpa using (others head (by simp)).1
  | cons op ops ih =>
    obtain ⟨apart, order⟩ := List.pairwise_cons.mp order
    rw [List.foldl_cons, cutAll, List.flatMap_singleton]
    exact foldl_cutAll_pieces apart (ih order) clear others

/-- The operators between texts without operators are the only ones in the joined text. -/
theorem pieces_join (clear : Clear first) (others : ∀ joined ∈ rest, Clear joined.2) :
    pieces (join first rest) = first :: rest.map Prod.snd :=
  foldl_cutAll_join pairwise_precedence clear fun joined mem => ⟨mem_precedence _, others joined mem⟩

end Verdict.Operator
