import Verdict.Error
import Verdict.Text.Whitespace

/-!
# Truth values

How a truth value is written: negations, each with white space behind it or not, and then `true` or `false` with
letters in either case. Letters are those of ASCII. The negations of a text are found in one way only
(`negations_eq_iff`).
-/
namespace Verdict.Boolean

def word : Bool → Text
  | true => ['t', 'r', 'u', 'e']
  | false => ['f', 'a', 'l', 's', 'e']

/-- The truth value that a text spells, if it spells one. -/
def ofWord? (text : Text) : Option Bool :=
  let lower := text.map Char.toLower
  if lower = word true then some true
  else if lower = word false then some false
  else none

theorem ofWord?_eq_some_iff {text : Text} {value : Bool} :
    ofWord? text = some value ↔ text.map Char.toLower = word value := by
  simp only [ofWord?]
  split
  · rename_i spelled; rw [spelled]; cases value <;> simp [word]
  · split
    · rename_i spelled; rw [spelled]; cases value <;> simp [word]
    · cases value <;> simp_all

/-- Negations, counted, each with white space behind it. -/
inductive Negations : Nat → Text → Prop where
  | none : Negations 0 []
  | more {count : Nat} {space rest : Text} :
    Text.IsBlank space → Negations count rest → Negations (count + 1) ('!' :: space ++ rest)

/-- No more negations stand at the front of a text, nor white space if it would go with one. -/
def Settled (count : Nat) (text : Text) : Prop :=
  ∀ c ∈ text.head?, c ≠ '!' ∧ (0 < count → Text.isWhitespace c = false)

/-- The number of negations in front of a text, after `count` others, and the text behind them. White space behind a
    negation goes with it. -/
def negations (count : Nat) : Text → Nat × Text
  | [] => (count, [])
  | c :: rest =>
    if c = '!' then negations (count + 1) rest
    else if 0 < count ∧ Text.isWhitespace c then negations count rest
    else (count, c :: rest)

theorem negations_of_settled {count : Nat} {text : Text} (settled : Settled count text) :
    negations count text = (count, text) := by
  cases text with
  | nil => rfl
  | cons c rest =>
    obtain ⟨other, black⟩ := settled c rfl
    rw [negations, if_neg other, if_neg]
    rintro ⟨counted, white⟩
    simp [black counted] at white

theorem negations_append_blank {count : Nat} (positive : 0 < count) {space : Text} (blank : Text.IsBlank space)
    (rest : Text) : negations count (space ++ rest) = negations count rest := by
  induction space with
  | nil => rfl
  | cons c space ih =>
    have white := blank c (by simp)
    have other : c ≠ '!' := by rintro rfl; simp [Text.isWhitespace, Text.whitespaceRanges] at white
    have tail : Text.IsBlank space := fun d mem => blank d (by simp [mem])
    rw [List.cons_append, negations, if_neg other, if_pos ⟨positive, white⟩, ih tail]

theorem negations_append {count more : Nat} {front : Text} (negated : Negations more front) (rest : Text) :
    negations count (front ++ rest) = negations (count + more) rest := by
  induction negated generalizing count with
  | none => rfl
  | @more more space tail blank _ ih =>
    rw [List.append_assoc, List.cons_append, negations, if_pos rfl, negations_append_blank (by omega) blank, ih]
    congr 1; omega

theorem exists_negations_eq (count : Nat) (text : Text) :
    ∃ space more front rest, Text.IsBlank space ∧ (count = 0 → space = []) ∧ Negations more front ∧
      text = space ++ front ++ rest ∧ Settled (count + more) rest ∧ negations count text = (count + more, rest) := by
  induction text generalizing count with
  | nil =>
    exact ⟨[], 0, [], [], by simp [Text.IsBlank], by simp, .none, rfl, by simp [Settled], rfl⟩
  | cons c text ih =>
    by_cases bang : c = '!'
    · subst bang
      obtain ⟨space, more, front, rest, blank, _, negated, rfl, settled, counted⟩ := ih (count + 1)
      have total : count + 1 + more = count + (more + 1) := by omega
      rw [total] at settled counted
      refine ⟨[], more + 1, '!' :: space ++ front, rest, by simp [Text.IsBlank], by simp, .more blank negated,
        by simp, settled, ?_⟩
      rw [negations, if_pos rfl, counted]
    · by_cases white : 0 < count ∧ Text.isWhitespace c = true
      · obtain ⟨space, more, front, rest, blank, _, negated, rfl, settled, counted⟩ := ih count
        refine ⟨c :: space, more, front, rest, ?_, by omega, negated, by simp, settled, ?_⟩
        · intro d mem
          rcases List.mem_cons.mp mem with rfl | mem
          · exact white.2
          · exact blank d mem
        · rw [negations, if_neg bang, if_pos white, counted]
      · have settled : Settled count (c :: text) := by
          intro d same
          obtain rfl : c = d := by simpa using same
          exact ⟨bang, fun counted => by simpa [counted] using white⟩
        exact ⟨[], 0, [], c :: text, by simp [Text.IsBlank], by simp, .none, rfl, settled,
          negations_of_settled settled⟩

/-- A text is negations and what is left of it, in one way only. -/
theorem negations_eq_iff {text rest : Text} {count : Nat} :
    negations 0 text = (count, rest) ↔ ∃ front, Negations count front ∧ text = front ++ rest ∧ Settled count rest := by
  constructor
  · intro counted
    obtain ⟨space, more, front, other, _, empty, negated, rfl, settled, result⟩ := exists_negations_eq 0 text
    rw [counted, Nat.zero_add] at result
    obtain ⟨rfl, rfl⟩ := Prod.mk.inj result
    rw [Nat.zero_add] at settled
    exact ⟨front, negated, by simp [empty rfl], settled⟩
  · rintro ⟨front, negated, rfl, settled⟩
    rw [negations_append negated, Nat.zero_add, negations_of_settled settled]

/-- The truth value that a text spells, apart from white space around it. An odd number of negations turns the value
    into the other one. -/
def ofText (text : Text) : Except EvalError Bool :=
  let trimmed := Text.trim text
  let (count, rest) := negations 0 trimmed
  if rest = [] then .error (.emptyValue trimmed)
  else
    match ofWord? rest with
    | some value => .ok (value ^^ count % 2 == 1)
    | none => .error (.invalidBoolean rest)

/-- A truth value as it is written: negations, each with what stands between it and what follows, and a word. -/
structure Spelling where
  negations : List Text
  word : Text
  deriving DecidableEq, Repr

namespace Spelling

/-- White space stands behind the negations, and the word spells a truth value. -/
def IsValid (spelling : Spelling) : Prop :=
  (∀ space ∈ spelling.negations, Text.IsBlank space) ∧ (ofWord? spelling.word).isSome = true

instance (spelling : Spelling) : Decidable spelling.IsValid :=
  inferInstanceAs (Decidable (_ ∧ _))

/-- The truth value as it is written. -/
def print (spelling : Spelling) : Text :=
  (spelling.negations.flatMap fun space => '!' :: space) ++ spelling.word

/-- The truth value, turned into the other one by each negation. -/
def value (spelling : Spelling) : Bool :=
  spelling.negations.foldr (fun _ value => !value) ((ofWord? spelling.word).getD false)

end Spelling

end Verdict.Boolean
