import Verdict.Proofs.Operands
import Verdict.Proofs.Quotes
import Verdict.Tree

/-!
# Numbers and strings in trees

A whole number is read back as the number that was written, and a string between quotes is compared as the string that
stands between them.
-/
namespace Verdict

/-! ## Whole numbers -/

theorem Decimal.compare_of_whole {a b : Decimal} (first : a.magnitude.scale = 0) (second : b.magnitude.scale = 0) :
    a.compare b = Ord.compare a.numerator b.numerator := by
  simp [compare, first, second]

theorem DecimalLiteral.readSign_of_isDigits {text : Text} (digits : Text.IsDigits text) :
    readSign text = (false, text) := by
  unfold readSign
  split
  · exact absurd (digits '-' (by simp)) (by decide)
  · exact absurd (digits '+' (by simp)) (by decide)
  · rfl

namespace Tree

theorem trim_printInt (n : Int) : Text.trim (printInt n) = printInt n := by
  have digits := Text.isDigits_toDigits n.natAbs
  have nonempty : Nat.toDigits 10 n.natAbs ≠ [] := Nat.toDigits_ne_nil
  unfold printInt
  split
  · refine Text.trim_eq_self (by simp; decide) fun c last => ?_
    rw [Option.mem_def, List.getLast?_cons_of_ne_nil nonempty] at last
    exact isWhitespace_of_isDigit (digits c (List.mem_of_getLast? last))
  · refine Text.trim_eq_self (fun c first => ?_) fun c last => ?_
    · exact isWhitespace_of_isDigit (digits c (List.mem_of_head? first))
    · exact isWhitespace_of_isDigit (digits c (List.mem_of_getLast? last))

theorem readSign_printInt (n : Int) :
    DecimalLiteral.readSign (printInt n) = (decide (n < 0), Nat.toDigits 10 n.natAbs) := by
  unfold printInt
  split
  · rename_i negative
    simp [negative, DecimalLiteral.readSign]
  · rename_i positive
    rw [DecimalLiteral.readSign_of_isDigits (Text.isDigits_toDigits _)]
    simp [positive]

theorem literal_printInt (n : Int) :
    DecimalLiteral.ofText? (printInt n) = some ⟨decide (n < 0), Nat.toDigits 10 n.natAbs, []⟩ := by
  have parts : DecimalLiteral.readUnsigned? (Nat.toDigits 10 n.natAbs) = some (Nat.toDigits 10 n.natAbs, []) :=
    DecimalLiteral.readUnsigned?_eq_some_iff.mpr
      ⟨Text.isDigits_toDigits _, by simp [Text.IsDigits], .inl ⟨Nat.toDigits_ne_nil, rfl, rfl⟩⟩
  simp [DecimalLiteral.ofText?, trim_printInt, readSign_printInt, parts]

/-- A whole number that is small enough is read as itself. -/
theorem exists_ofText?_printInt {n : Int} (small : n.natAbs < coefficientBound) :
    ∃ d, Decimal.ofText? (printInt n) = some d ∧ d.numerator = n ∧ d.magnitude.scale = 0 := by
  have whole : Magnitude.ofNat? (Nat.ofDigitChars 10 (Nat.toDigits 10 n.natAbs) 0) =
      some ⟨n.natAbs, 0, small, Nat.zero_le _⟩ := by
    rw [Nat.ofDigitChars_ten_toDigits, Magnitude.ofNat?, dif_pos small]
  refine ⟨⟨decide (n < 0), ⟨n.natAbs, 0, small, Nat.zero_le _⟩⟩, ?_, ?_, rfl⟩
  · rw [Decimal.ofText?, literal_printInt, Option.bind_some, Decimal.ofLiteral?, whole]
    rfl
  · simp only [Decimal.numerator, decide_eq_true_eq]
    split <;> omega

/-- An operator between two whole numbers holds as it does for the numbers. -/
theorem outcome_ungrouped_numbers (mode : Comparison) (depth : Nat) (descend : Text → Traced Bool) {op : Operator}
    {left right : Int} (numeric : IsNumeric op) (smallLeft : left.natAbs < coefficientBound)
    (smallRight : right.natAbs < coefficientBound) :
    (ungrouped mode depth descend (printBinary (printInt left) op (printInt right))).outcome =
      .ok (op.holds left right) := by
  obtain ⟨a, first, numeratorLeft, wholeLeft⟩ := exists_ofText?_printInt smallLeft
  obtain ⟨b, second, numeratorRight, wholeRight⟩ := exists_ofText?_printInt smallRight
  rw [← Decimal.ofText?_pad Text.isBlank_nil Text.isBlank_space] at first
  rw [← Decimal.ofText?_pad Text.isBlank_space Text.isBlank_nil] at second
  have value := outcome_ungrouped_of_numbers mode depth descend numeric first second
  rw [Decimal.compare_of_whole wholeLeft wholeRight, numeratorLeft, numeratorRight,
    Operator.admits_compare_eq_holds] at value
  simpa [printBinary] using value

/-! ## Strings -/

theorem not_occursIn_printString {text : Text} (plain : IsPlain text) : ¬ Operator.OccursIn (printString text) := by
  rintro ⟨op, inside⟩
  have apart : '"' ∉ op.symbol := by cases op <;> decide
  have absent : ¬ op.symbol <:+: [] := fun here => op.symbol_ne_nil (List.infix_nil.mp here)
  have behind : op.symbol <:+: [] ∨ op.symbol <:+: text ++ ['"'] := Text.occurs_cons_of_not_mem apart inside
  have before : op.symbol <:+: text ∨ op.symbol <:+: [] :=
    Text.occurs_cons_of_not_mem apart (behind.resolve_left absent)
  exact plain.2 ⟨op, before.resolve_right absent⟩

theorem isQuoted_printString (text : Text) : Operand.IsQuoted (printString text) :=
  ⟨rfl, List.getLast?_concat⟩

theorem trim_pad_printString {before after : Text} (left : Text.IsBlank before) (right : Text.IsBlank after)
    (text : Text) : Text.trim (before ++ printString text ++ after) = printString text := by
  rw [Text.trim_of_isBlank_right right, Text.trim_of_isBlank_left left]
  have black : ∀ c ∈ some '"', Text.isWhitespace c = false := by
    intro c same
    obtain rfl : '"' = c := Option.some.inj same
    decide
  refine Text.trim_eq_self ?_ ?_
  · rw [(isQuoted_printString text).1]
    exact black
  · rw [(isQuoted_printString text).2]
    exact black

theorem isLeaf_pad_printString {text before after : Text} (plain : IsPlain text) (left : Text.IsBlank before)
    (right : Text.IsBlank after) : IsLeaf (before ++ printString text ++ after) := by
  have trimmed := trim_pad_printString left right text
  refine ⟨?_, ?_⟩
  · rw [trimmed]
    exact .inr (.inr (isQuoted_printString text))
  · rw [← Operator.occursIn_trim_iff, trimmed]
    exact not_occursIn_printString plain

/-- Two strings between quotes are compared as what stands between the quotes. -/
theorem outcome_ungrouped_strings (mode : Comparison) (depth : Nat) (descend : Text → Traced Bool) (equal : Bool)
    {left right : Text} (plainLeft : IsPlain left) (plainRight : IsPlain right) :
    (ungrouped mode depth descend
      (printBinary (printString left) (if equal then .eq else .ne) (printString right))).outcome =
      .ok (mode.equals left right == equal) := by
  have one : IsLeaf ([] ++ printString left ++ [' ']) :=
    isLeaf_pad_printString plainLeft Text.isBlank_nil Text.isBlank_space
  have two : IsLeaf ([' '] ++ printString right ++ []) :=
    isLeaf_pad_printString plainRight Text.isBlank_space Text.isBlank_nil
  have known : ∀ op text, (equality mode descend text ⟨op, Text.trim ([] ++ printString left ++ [' ']),
      Text.trim ([' '] ++ printString right ++ [])⟩).outcome = .ok (mode.equals left right) := by
    intro op text
    have quoted : ∀ text, Operand.ofText (printString text) = .quoted (printString text) :=
      fun text => if_pos (isQuoted_printString text)
    rw [outcome_equality_of_leaves mode descend text one two,
      trim_pad_printString Text.isBlank_nil Text.isBlank_space,
      trim_pad_printString Text.isBlank_space Text.isBlank_nil, quoted, quoted]
    exact congrArg Except.ok (mode.equals_quoted left right)
  have shape : ∀ op : Operator, printBinary (printString left) op (printString right) =
      ([] ++ printString left ++ [' ']) ++ op.symbol ++ ([' '] ++ printString right ++ []) := by
    intro op
    simp [printBinary]
  rw [shape, outcome_ungrouped_of_split mode depth descend (one.first?_eq_some two _)]
  cases equal with
  | true => simpa using outcome_splitValue_eq mode descend _ (known .eq _)
  | false => simpa using outcome_splitValue_ne mode descend _ (known .ne _)

end Tree
end Verdict
