import Verdict.Boolean
import Verdict.Proofs.Text.Trim

/-!
# How truth values are written

A text is read as a truth value exactly where it is the spelling of one, apart from white space around it
(`ofText_eq_ok_iff`).
-/
namespace Verdict

/-! ## Letters and digits -/

theorem isUpper_iff {c : Char} : c.isUpper = true ↔ 65 ≤ c.toNat ∧ c.toNat ≤ 90 :=
  decide_eq_true_iff.trans (and_congr UInt32.le_iff_toNat_le UInt32.le_iff_toNat_le)

theorem isLower_iff {c : Char} : c.isLower = true ↔ 97 ≤ c.toNat ∧ c.toNat ≤ 122 :=
  Bool.and_eq_true_iff.trans (and_congr (decide_eq_true_iff.trans UInt32.le_iff_toNat_le)
    (decide_eq_true_iff.trans UInt32.le_iff_toNat_le))

theorem isAlpha_iff {c : Char} : c.isAlpha = true ↔ c.isUpper = true ∨ c.isLower = true :=
  Bool.or_eq_true_iff

theorem toNat_of_isAlpha {c : Char} (letter : c.isAlpha = true) : 65 ≤ c.toNat ∧ c.toNat ≤ 122 := by
  rw [isAlpha_iff, isUpper_iff, isLower_iff] at letter
  omega

theorem isWhitespace_of_isAlpha {c : Char} (letter : c.isAlpha = true) : Text.isWhitespace c = false := by
  have bounds := toNat_of_isAlpha letter
  simp [Text.isWhitespace, Text.whitespaceRanges]
  omega

theorem toNat_of_isDigit {c : Char} (digit : c.isDigit = true) : 48 ≤ c.toNat ∧ c.toNat ≤ 57 := by
  simpa [Char.isDigit, UInt32.le_iff_toNat_le] using digit

theorem isWhitespace_of_isDigit {c : Char} (digit : c.isDigit = true) : Text.isWhitespace c = false := by
  have bounds := toNat_of_isDigit digit
  simp [Text.isWhitespace, Text.whitespaceRanges]
  omega

theorem not_isDigit_of_isAlpha {c : Char} (letter : c.isAlpha = true) : c.isDigit = false := by
  have bounds := toNat_of_isAlpha letter
  refine Bool.eq_false_iff.mpr fun digit => ?_
  have others := toNat_of_isDigit digit
  omega

/-- What is a letter in lower case is a letter. -/
theorem isAlpha_of_toLower {c : Char} (letter : c.toLower.isAlpha = true) : c.isAlpha = true := by
  by_cases upper : c.isUpper = true
  · exact isAlpha_iff.mpr (.inl upper)
  · have same : c.toLower = c := dif_neg fun range => upper (decide_eq_true range)
    rwa [same] at letter

namespace Boolean

theorem isAlpha_of_ofWord? {word : Text} {value : Bool} (spelled : ofWord? word = some value) :
    ∀ c ∈ word, c.isAlpha = true := by
  intro c mem
  have lower : c.toLower ∈ Boolean.word value := by
    rw [← ofWord?_eq_some_iff.mp spelled]
    exact List.mem_map_of_mem mem
  have letters : ∀ d ∈ Boolean.word value, d.isAlpha = true := by cases value <;> simp [Boolean.word]
  exact isAlpha_of_toLower (letters _ lower)

theorem ne_nil_of_ofWord? {word : Text} {value : Bool} (spelled : ofWord? word = some value) : word ≠ [] := by
  rintro rfl
  have lower := ofWord?_eq_some_iff.mp spelled
  cases value <;> simp [Boolean.word] at lower

/-- No negation and no white space is read in front of a word. -/
theorem settled_of_ofWord? {word : Text} {value : Bool} (spelled : ofWord? word = some value) (count : Nat) :
    Settled count word := by
  intro c first
  have letter := isAlpha_of_ofWord? spelled c (List.mem_of_head? first)
  refine ⟨?_, fun _ => isWhitespace_of_isAlpha letter⟩
  rintro rfl
  simp at letter

/-! ## Spellings -/

theorem Negations.eq_or_isWhitespace {count : Nat} {front : Text} (negated : Negations count front) :
    ∀ c ∈ front, c = '!' ∨ Text.isWhitespace c = true := by
  induction negated with
  | none => simp
  | more blank _ ih =>
    intro c mem
    rcases List.mem_cons.mp mem with rfl | behind
    · exact .inl rfl
    · rcases List.mem_append.mp behind with space | later
      · exact .inr (blank c space)
      · exact ih c later

namespace Spelling

variable {spelling : Spelling}

theorem IsValid.exists_ofWord? (valid : spelling.IsValid) : ∃ value, ofWord? spelling.word = some value :=
  Option.isSome_iff_exists.mp valid.2

theorem negations_flatMap {spaces : List Text} (blank : ∀ space ∈ spaces, Text.IsBlank space) :
    Negations spaces.length (spaces.flatMap fun space => '!' :: space) := by
  induction spaces with
  | nil => exact .none
  | cons space spaces ih =>
    exact .more (blank space (by simp)) (ih fun other mem => blank other (by simp [mem]))

theorem negations_print (valid : spelling.IsValid) :
    Boolean.negations 0 spelling.print = (spelling.negations.length, spelling.word) := by
  obtain ⟨value, spelled⟩ := valid.exists_ofWord?
  exact negations_eq_iff.mpr ⟨_, negations_flatMap valid.1, rfl, settled_of_ofWord? spelled _⟩

/-- An odd number of negations turns the value of the word into the other one. -/
theorem value_eq {value : Bool} (spelled : ofWord? spelling.word = some value) :
    spelling.value = (value ^^ spelling.negations.length % 2 == 1) := by
  rw [Spelling.value, spelled, Option.getD_some]
  induction spelling.negations with
  | nil => simp
  | cons space spaces ih =>
    rw [List.foldr_cons, ih, List.length_cons]
    rcases Nat.mod_two_eq_zero_or_one spaces.length with even | odd
    · cases value <;> simp [Nat.add_mod, even]
    · cases value <;> simp [Nat.add_mod, odd]

theorem exists_of_negations {count : Nat} {front : Text} (negated : Negations count front) :
    ∃ spaces : List Text, spaces.length = count ∧ (∀ space ∈ spaces, Text.IsBlank space) ∧
      front = spaces.flatMap fun space => '!' :: space := by
  induction negated with
  | none => exact ⟨[], rfl, by simp, rfl⟩
  | @more count space rest blank _ ih =>
    obtain ⟨spaces, rfl, others, rfl⟩ := ih
    exact ⟨space :: spaces, rfl, by simpa using ⟨blank, others⟩, rfl⟩

end Spelling

/-- A text is read as a truth value where it spells it, apart from white space around it. -/
theorem ofText_eq_ok_iff {text : Text} {value : Bool} :
    ofText text = .ok value ↔
      ∃ spelling : Spelling, spelling.IsValid ∧ Text.trim text = spelling.print ∧ spelling.value = value := by
  constructor
  · intro read
    cases counted : negations 0 (Text.trim text) with
    | mk count rest =>
      simp only [ofText, counted] at read
      split at read
      · simp at read
      · split at read
        · rename_i word spelled
          obtain ⟨front, negated, whole, _⟩ := negations_eq_iff.mp counted
          obtain ⟨spaces, rfl, blank, rfl⟩ := Spelling.exists_of_negations negated
          refine ⟨⟨spaces, rest⟩, ⟨blank, by simp [spelled]⟩, whole, ?_⟩
          rw [Spelling.value_eq spelled]
          exact Except.ok.inj read
        · simp at read
  · rintro ⟨spelling, valid, whole, rfl⟩
    obtain ⟨value, spelled⟩ := valid.exists_ofWord?
    rw [Spelling.value_eq spelled]
    simp [ofText, whole, Spelling.negations_print valid, ne_nil_of_ofWord? spelled, spelled]

end Boolean
end Verdict
