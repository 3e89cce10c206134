import Verdict.Operand
import Verdict.Proofs.Boolean
import Verdict.Proofs.Decimal.Grammar
import Verdict.Proofs.Splits

/-!
# Literals

A literal is a truth value, a number or a string between quotes, as it is written. None of them begins with what ends
an operator or ends with what begins one, with or without white space around it (`IsLiteral.guarded`). No operator and
no parenthesis stands in a truth value or in a number.
-/
namespace Verdict

/-! ## Characters of operators and parentheses -/

/-- The characters with which operators end, and the parentheses. -/
def markers : List Char :=
  ['|', '&', '=', '>', '<', '(', ')']

/-- A text without markers. -/
def Unmarked (text : Text) : Prop :=
  ∀ c ∈ text, c ∉ markers

namespace Unmarked

variable {text : Text}

theorem ungrouped (unmarked : Unmarked text) : Ungrouped text :=
  ⟨fun mem => unmarked _ mem (by simp [markers]), fun mem => unmarked _ mem (by simp [markers])⟩

theorem not_occursIn (unmarked : Unmarked text) : ¬ Operator.OccursIn text := by
  rintro ⟨op, inside⟩
  have ends : ∃ c ∈ op.symbol, c ∈ markers := by cases op <;> simp [Operator.symbol, markers]
  obtain ⟨c, mem, marker⟩ := ends
  exact unmarked c (inside.subset mem) marker

theorem append {a b : Text} (left : Unmarked a) (right : Unmarked b) : Unmarked (a ++ b) := by
  intro c mem
  rcases List.mem_append.mp mem with mem | mem
  · exact left c mem
  · exact right c mem

/-- The exclamation mark is the only character that begins an operator and ends none. -/
theorem guarded (unmarked : Unmarked text) (nonempty : text ≠ []) (last : text.getLast? ≠ some '!') :
    Operator.Guarded text := by
  have tails : ∀ op : Operator, ∀ c ∈ op.symbol.tail, c ∈ markers := by
    intro op
    cases op <;> simp [Operator.symbol, markers]
  have heads : ∀ op : Operator, ∀ c ∈ op.symbol.head?, c ∈ markers ∨ c = '!' := by
    intro op
    cases op <;> simp [Operator.symbol, markers]
  refine ⟨nonempty, ?_, ?_⟩
  · intro c first op mem
    exact unmarked c (List.mem_of_head? first) (tails op c mem)
  · intro c ends op begins
    rcases heads op c begins with marker | rfl
    · exact unmarked c (List.mem_of_getLast? ends) marker
    · exact last ends

end Unmarked

theorem not_mem_markers {c : Char} (white : Text.isWhitespace c = true) : c ∉ markers := by
  have black : ∀ d ∈ markers, Text.isWhitespace d = false := by
    simp [markers, Text.isWhitespace, Text.whitespaceRanges]
  intro marker
  simp [black c marker] at white

theorem Text.IsBlank.unmarked {text : Text} (blank : Text.IsBlank text) : Unmarked text :=
  fun c mem => not_mem_markers (blank c mem)

theorem Unmarked.of_trim {text : Text} (unmarked : Unmarked (Text.trim text)) : Unmarked text := by
  obtain ⟨before, after, left, right, whole⟩ := Text.exists_trim_eq text
  rw [whole]
  exact (left.unmarked.append unmarked).append right.unmarked

/-- White space around a text neither begins nor ends an operator. -/
theorem Operator.Guarded.of_trim {text : Text} (guarded : Guarded (Text.trim text)) : Guarded text := by
  obtain ⟨before, after, left, right, whole⟩ := Text.exists_trim_eq text
  have black : ∀ c, Text.isWhitespace c = true → ∀ op : Operator, c ∉ op.symbol := by
    intro c white op mem
    simp [op.black_symbol.black c mem] at white
  rw [whole]
  refine ⟨?_, ?_, ?_⟩
  · simp [guarded.nonempty]
  · intro c first op mem
    cases before with
    | nil =>
      rw [List.nil_append, Option.mem_def, List.head?_append_of_ne_nil _ guarded.nonempty] at first
      exact guarded.first c first op mem
    | cons d before =>
      obtain rfl : d = c := by simpa using first
      exact black d (left d (by simp)) op (List.mem_of_mem_tail mem)
  · intro c last op begins
    by_cases empty : after = []
    · rw [empty, List.append_nil, Option.mem_def, List.getLast?_append_of_ne_nil _ guarded.nonempty] at last
      exact guarded.last c last op begins
    · rw [Option.mem_def, List.getLast?_append_of_ne_nil _ empty] at last
      exact black c (right c (List.mem_of_getLast? last)) op (List.mem_of_head? begins)

/-! ## Truth values -/

namespace Boolean

theorem Negations.unmarked {count : Nat} {front : Text} (negated : Negations count front) : Unmarked front := by
  intro c mem
  rcases negated.eq_or_isWhitespace c mem with rfl | white
  · decide
  · exact not_mem_markers white

theorem unmarked_of_ofWord? {word : Text} {value : Bool} (spelled : ofWord? word = some value) : Unmarked word := by
  intro c mem marker
  have letters : ∀ d ∈ markers, d.isAlpha = false := by simp [markers]
  have letter := isAlpha_of_ofWord? spelled c mem
  simp [letters c marker] at letter

namespace Spelling

variable {spelling : Spelling}

theorem unmarked_print (valid : spelling.IsValid) : Unmarked spelling.print := by
  obtain ⟨value, spelled⟩ := valid.exists_ofWord?
  exact (negations_flatMap valid.1).unmarked.append (unmarked_of_ofWord? spelled)

theorem print_ne_nil (valid : spelling.IsValid) : spelling.print ≠ [] := by
  obtain ⟨value, spelled⟩ := valid.exists_ofWord?
  simp [print, ne_nil_of_ofWord? spelled]

theorem isAlpha_of_getLast?_print (valid : spelling.IsValid) : ∀ c ∈ spelling.print.getLast?, c.isAlpha = true := by
  obtain ⟨value, spelled⟩ := valid.exists_ofWord?
  intro c last
  rw [print, Option.mem_def, List.getLast?_append_of_ne_nil _ (ne_nil_of_ofWord? spelled)] at last
  exact isAlpha_of_ofWord? spelled c (List.mem_of_getLast? last)

theorem guarded_print (valid : spelling.IsValid) : Operator.Guarded spelling.print := by
  refine (unmarked_print valid).guarded (print_ne_nil valid) fun last => ?_
  have letter := isAlpha_of_getLast?_print valid _ last
  simp at letter

theorem trim_print (valid : spelling.IsValid) : Text.trim spelling.print = spelling.print := by
  obtain ⟨value, spelled⟩ := valid.exists_ofWord?
  refine Text.trim_eq_self ?_ fun c last => isWhitespace_of_isAlpha (isAlpha_of_getLast?_print valid c last)
  intro c first
  cases shape : spelling.negations with
  | nil =>
    rw [print, shape, List.flatMap_nil, List.nil_append] at first
    exact isWhitespace_of_isAlpha (isAlpha_of_ofWord? spelled c (List.mem_of_head? first))
  | cons space spaces =>
    obtain rfl : '!' = c := by simpa [print, shape] using first
    decide

end Spelling

theorem unmarked_of_ofText {text : Text} {value : Bool} (read : ofText text = .ok value) : Unmarked text := by
  obtain ⟨spelling, valid, shape, _⟩ := ofText_eq_ok_iff.mp read
  refine Unmarked.of_trim ?_
  rw [shape]
  exact Spelling.unmarked_print valid

end Boolean

/-! ## Numbers -/

theorem Decimal.ofText?_trim (text : Text) : ofText? (Text.trim text) = ofText? text := by
  rw [ofText?, ofText?, DecimalLiteral.ofText?, DecimalLiteral.ofText?, Text.trim_trim]

theorem Decimal.ofText?_pad {before after : Text} (left : Text.IsBlank before) (right : Text.IsBlank after)
    (text : Text) : ofText? (before ++ text ++ after) = ofText? text := by
  rw [← ofText?_trim, Text.trim_of_isBlank_right right, Text.trim_of_isBlank_left left, ofText?_trim]

theorem Decimal.exists_isWritten {text : Text} (number : (ofText? text).isSome = true) :
    ∃ literal : DecimalLiteral, literal.IsWritten (Text.trim text) := by
  obtain ⟨value, read⟩ := Option.isSome_iff_exists.mp number
  obtain ⟨literal, spelled, _⟩ := Option.bind_eq_some_iff.mp read
  exact ⟨literal, DecimalLiteral.ofText?_eq_some_iff.mp spelled⟩

theorem Decimal.unmarked {text : Text} (number : (ofText? text).isSome = true) : Unmarked (Text.trim text) := by
  obtain ⟨literal, written⟩ := exists_isWritten number
  obtain ⟨front, digits, shape, parts, _, last⟩ := written.exists_digits
  have others : ∀ c ∈ markers, c ∉ ['+', '-', '.', ','] ∧ c.isDigit = false := by simp [markers]
  intro c mem marker
  obtain ⟨noSign, noDigit⟩ := others c marker
  rw [shape] at mem
  rcases List.mem_append.mp mem with mem | mem
  · rcases parts c mem with sign | digit
    · exact noSign sign
    · simp [noDigit] at digit
  · have digit := last c mem
    simp [noDigit] at digit

theorem Decimal.isDigit_of_getLast?_trim {text : Text} (number : (ofText? text).isSome = true) :
    Text.trim text ≠ [] ∧ ∀ c ∈ (Text.trim text).getLast?, c.isDigit = true := by
  obtain ⟨literal, written⟩ := exists_isWritten number
  obtain ⟨front, digits, shape, _, nonempty, last⟩ := written.exists_digits
  refine ⟨by simp [shape, nonempty], fun c ends => ?_⟩
  rw [shape, Option.mem_def, List.getLast?_append_of_ne_nil _ nonempty] at ends
  exact last c (List.mem_of_getLast? ends)

theorem Decimal.guarded {text : Text} (number : (ofText? text).isSome = true) :
    Operator.Guarded (Text.trim text) := by
  obtain ⟨nonempty, last⟩ := isDigit_of_getLast?_trim number
  refine (unmarked number).guarded nonempty fun ends => ?_
  have digit := last _ ends
  simp at digit

/-! ## Literals of any kind -/

/-- A truth value as it is written, a number, or a string between quotes. -/
def IsLiteral (text : Text) : Prop :=
  (∃ spelling : Boolean.Spelling, spelling.IsValid ∧ text = spelling.print) ∨
    (Decimal.ofText? text).isSome = true ∨ Operand.IsQuoted text

theorem Operand.IsQuoted.guarded {text : Text} (quoted : IsQuoted text) : Operator.Guarded text := by
  refine ⟨?_, ?_, ?_⟩
  · rintro rfl
    simp [IsQuoted] at quoted
  · intro c first op
    obtain rfl : c = '"' := Option.some.inj (first.symm.trans quoted.1)
    cases op <;> decide
  · intro c last op
    obtain rfl : c = '"' := Option.some.inj (last.symm.trans quoted.2)
    cases op <;> decide

theorem Operand.ofText_cases (text : Text) :
    (IsQuoted text ∧ ofText text = .quoted text) ∨
      (∃ value, Decimal.ofText? text = some value ∧ ofText text = .decimal value) ∨ ofText text = .bare text := by
  unfold ofText
  split
  · rename_i quoted
    exact .inl ⟨quoted, rfl⟩
  · split
    · rename_i value known
      exact .inr (.inl ⟨value, known, rfl⟩)
    · exact .inr (.inr rfl)

theorem IsLiteral.guarded_trim {text : Text} (literal : IsLiteral (Text.trim text)) :
    Operator.Guarded (Text.trim text) := by
  rcases literal with ⟨spelling, valid, shape⟩ | number | quoted
  · rw [shape]
    exact Boolean.Spelling.guarded_print valid
  · rw [Decimal.ofText?_trim] at number
    exact Decimal.guarded number
  · exact quoted.guarded

/-- A literal with white space around it and no operator in it. -/
structure IsLeaf (text : Text) : Prop where
  literal : IsLiteral (Text.trim text)
  free : ¬ Operator.OccursIn text

namespace IsLeaf

variable {text left right : Text}

theorem not_isBlank (leaf : IsLeaf text) : ¬ Text.IsBlank text :=
  fun blank => leaf.literal.guarded_trim.nonempty (Text.trim_eq_nil_iff.mpr blank)

theorem clear (leaf : IsLeaf text) : Operator.Clear text :=
  ⟨.of_trim leaf.literal.guarded_trim, leaf.free⟩

theorem side (leaf : IsLeaf text) (ops : List Operator) : Split.Side ops text :=
  ⟨leaf.clear.guarded, leaf.not_isBlank, fun op _ inside => leaf.free ⟨op, inside⟩⟩

theorem of_truth {value : Bool} (read : Boolean.ofText text = .ok value) : IsLeaf text := by
  obtain ⟨spelling, valid, shape, _⟩ := Boolean.ofText_eq_ok_iff.mp read
  exact ⟨.inl ⟨spelling, valid, shape⟩, (Boolean.unmarked_of_ofText read).not_occursIn⟩

theorem of_number {value : Decimal} (read : Decimal.ofText? text = some value) : IsLeaf text := by
  have isNumber : (Decimal.ofText? text).isSome = true := by simp [read]
  refine ⟨.inr (.inl ?_), Unmarked.not_occursIn (Unmarked.of_trim (Decimal.unmarked isNumber))⟩
  rw [Decimal.ofText?_trim]
  exact isNumber

/-- Two leaves split at the operator between them. -/
theorem first?_eq_some (one : IsLeaf left) (two : IsLeaf right) (op : Operator) :
    Split.first? (left ++ op.symbol ++ right) = some ⟨op, Text.trim left, Text.trim right⟩ := by
  obtain ⟨looser, tighter, order⟩ := List.append_of_mem (Operator.mem_precedence op)
  have found : Split.first? (Operator.join left ([] ++ (op, right) :: [])) =
      some ⟨op, Text.trim (Operator.join left []), Text.trim (Operator.join right [])⟩ :=
    Split.first?_join order (one.side _) (by simp) (two.side _) (by simp)
  simpa [Operator.join] using found

end IsLeaf

end Verdict
