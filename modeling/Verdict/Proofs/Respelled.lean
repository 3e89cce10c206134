import Mathlib.Data.List.Forall2
import Verdict.Proofs.Group.Accepted
import Verdict.Proofs.Text.Respelling

/-!
# Letters and marks

Letters in another case and one decimal mark for the other make no difference outside strings, and neither do letters
within strings if strings are compared without regard to case. A respelled text is what the text was, be it a truth
value, a number or a split (`Respells.value?_ungrouped_map`). Groups that were copies of each other need not be so any
more, or the other way round; the pass, which does not compare groups, has the same values on both texts
(`Respells.toOption_onePass_map`).
-/
namespace Verdict

open DecimalLiteral (IsMark)

/-- An operand of the same kind, respelled. -/
def Operand.map (f : Char → Char) : Operand → Operand
  | .quoted text => .quoted (text.map f)
  | .decimal value => .decimal value
  | .bare text => .bare (text.map f)

/-- Where there are strings in the text, the comparison does not tell them from the respelled ones. -/
def StringsKept (mode : Comparison) (f : Char → Char) (text : Text) : Prop :=
  '"' ∈ text → ∀ string : Text, mode.form (string.map f) = mode.form string

theorem StringsKept.of_subset {mode : Comparison} {f : Char → Char} {text part : Text}
    (kept : StringsKept mode f text) (subset : part ⊆ text) : StringsKept mode f part :=
  fun mem => kept (subset mem)

/-- A text without parentheses, the strings of which are kept. -/
structure Steady (mode : Comparison) (f : Char → Char) (text : Text) : Prop where
  plain : Ungrouped text
  kept : StringsKept mode f text

namespace Steady

variable {mode : Comparison} {f : Char → Char} {text : Text}

theorem nil : Steady mode f [] :=
  ⟨by decide, fun mem => by simp at mem⟩

theorem append {more : Text} (first : Steady mode f text) (second : Steady mode f more) :
    Steady mode f (text ++ more) :=
  ⟨ungrouped_append_iff.mpr ⟨first.plain, second.plain⟩,
    fun mem => (List.mem_append.mp mem).elim first.kept second.kept⟩

theorem word (value : Bool) : Steady mode f (Boolean.word value) := by
  refine ⟨Boolean.ungrouped_word value, fun mem => ?_⟩
  cases value <;> simp [Boolean.word] at mem

theorem sides {split : Split} (steady : Steady mode f text) (found : Split.first? text = some split) :
    Steady mode f split.left ∧ Steady mode f split.right := by
  obtain ⟨left, right⟩ := Split.sides_occur found
  obtain ⟨plainLeft, plainRight⟩ := Split.ungrouped_sides steady.plain found
  exact ⟨⟨plainLeft, steady.kept.of_subset left.subset⟩, ⟨plainRight, steady.kept.of_subset right.subset⟩⟩

end Steady

namespace Respells

variable {f : Char → Char} (respells : Respells f)
include respells

/-! ## Truth values and numbers -/

theorem ofWord?_map (text : Text) : Boolean.ofWord? (text.map f) = Boolean.ofWord? text := by
  have lower : ∀ {part : Text}, (∀ c ∈ part, c.isAlpha = true) →
      (part.map f).map Char.toLower = part.map Char.toLower := by
    intro part letters
    rw [List.map_map]
    exact List.map_congr_left fun c mem => (respells.interchangeable c).toLower_eq (letters c mem)
  -- Whichever of the two texts spells a value, there are only letters in both.
  refine Option.ext fun value => ⟨fun spelled => ?_, fun spelled => ?_⟩
  · have letters : ∀ c ∈ text, c.isAlpha = true := by
      intro c mem
      rw [← (respells.interchangeable c).isAlpha_eq]
      exact Boolean.isAlpha_of_ofWord? spelled _ (List.mem_map_of_mem mem)
    rw [Boolean.ofWord?_eq_some_iff] at spelled ⊢
    rw [← lower letters, spelled]
  · have letters := Boolean.isAlpha_of_ofWord? spelled
    rw [Boolean.ofWord?_eq_some_iff] at spelled ⊢
    rw [lower letters, spelled]

theorem negations_map (count : Nat) (text : Text) :
    Boolean.negations count (text.map f) = Prod.map id (List.map f) (Boolean.negations count text) := by
  induction text generalizing count with
  | nil => rfl
  | cons c text ih =>
    have bang := respells.apply_eq_iff (by decide : Rigid '!') c
    simp only [List.map_cons, Boolean.negations, bang, respells.isWhitespace_apply, ih]
    split
    · rfl
    · split <;> rfl

theorem toOption_ofText_map (text : Text) :
    (Boolean.ofText (text.map f)).toOption = (Boolean.ofText text).toOption := by
  unfold Boolean.ofText
  simp only [respells.trim_map, respells.negations_map, Prod.map_fst, Prod.map_snd, id, List.map_eq_nil_iff,
    respells.ofWord?_map]
  split
  · rfl
  · cases Boolean.ofWord? (Boolean.negations 0 (Text.trim text)).2 <;> rfl

theorem readSign_map (text : Text) :
    DecimalLiteral.readSign (text.map f) = Prod.map id (List.map f) (DecimalLiteral.readSign text) := by
  cases text with
  | nil => rfl
  | cons c text =>
    have minus := respells.apply_eq_iff (by decide : Rigid '-') c
    have plus := respells.apply_eq_iff (by decide : Rigid '+') c
    have unsigned : ∀ {d : Char} {rest : Text}, d ≠ '-' → d ≠ '+' →
        DecimalLiteral.readSign (d :: rest) = (false, d :: rest) := by
      intro d rest noMinus noPlus
      unfold DecimalLiteral.readSign
      split <;> simp_all
    by_cases isMinus : c = '-'
    · rw [List.map_cons, minus.mpr isMinus, isMinus]
      rfl
    · by_cases isPlus : c = '+'
      · rw [List.map_cons, plus.mpr isPlus, isPlus]
        rfl
      · rw [List.map_cons, unsigned (isMinus ∘ minus.mp) (isPlus ∘ plus.mp), unsigned isMinus isPlus]
        rfl

theorem scanDigits_map (text : Text) :
    Text.scanDigits (text.map f) = Prod.map id (List.map f) (Text.scanDigits text) := by
  have digits := respells.map_of_isDigits (Text.isDigits_scanDigits text)
  rw [Text.scanDigits] at digits
  simp only [Text.scanDigits, List.takeWhile_map, List.dropWhile_map, respells.isDigit_comp, Prod.map_apply, id]
  rw [digits]

theorem isDigits_map_iff (text : Text) : Text.IsDigits (text.map f) ↔ Text.IsDigits text := by
  have same : ∀ c, (f c).isDigit = c.isDigit := congrFun respells.isDigit_comp
  simp [Text.IsDigits, same]

theorem readUnsigned?_map (text : Text) :
    DecimalLiteral.readUnsigned? (text.map f) = DecimalLiteral.readUnsigned? text := by
  unfold DecimalLiteral.readUnsigned?
  rw [respells.scanDigits_map]
  obtain ⟨whole, rest⟩ := Text.scanDigits text
  cases rest with
  | nil => rfl
  | cons mark fraction =>
    simp only [Prod.map_apply, id, List.map_cons, (respells.interchangeable mark).isMark_iff, ne_eq,
      List.map_eq_nil_iff, respells.isDigits_map_iff]
    split
    · rename_i digits
      rw [respells.map_of_isDigits digits.2.2]
    · rfl

theorem ofText?_map (text : Text) : Decimal.ofText? (text.map f) = Decimal.ofText? text := by
  unfold Decimal.ofText? DecimalLiteral.ofText?
  simp only [respells.trim_map, respells.readSign_map, Prod.map_fst, Prod.map_snd, id, respells.readUnsigned?_map]

/-! ## Operands -/

theorem isQuoted_map_iff (text : Text) : Operand.IsQuoted (text.map f) ↔ Operand.IsQuoted text := by
  have quote : ∀ c : Option Char, c.map f = some '"' ↔ c = some '"' := by
    intro c
    cases c with
    | none => simp
    | some c => simpa using respells.apply_eq_iff (by decide : Rigid '"') c
  rw [Operand.IsQuoted, Operand.IsQuoted, List.head?_map, List.getLast?_map, quote, quote]

theorem operand_map (text : Text) : Operand.ofText (text.map f) = (Operand.ofText text).map f := by
  simp only [Operand.ofText, respells.isQuoted_map_iff, respells.ofText?_map]
  split
  · rfl
  · split <;> rfl

section

variable {mode : Comparison} {descend : Text → Traced Bool} {split : Split} (text text' : Text)

theorem toOption_equals_map (op : Operator) {left : Operand}
    (strings : ∀ string, left = .quoted string → ∀ other : Text, mode.form (other.map f) = mode.form other)
    (right : Operand) :
    (Operand.equals mode text' op (left.map f) (right.map f)).toOption =
      (Operand.equals mode text op left right).toOption := by
  cases left with
  | quoted a =>
    cases right with
    | quoted b =>
      refine congrArg some ?_
      rw [Comparison.equals, Comparison.equals, strings a rfl a, strings a rfl b]
    | decimal b | bare b => rfl
  | decimal a => cases right <;> rfl
  | bare a =>
    cases right with
    | bare b =>
      show (Boolean.ofText (a.map f) >>= fun x => Boolean.ofText (b.map f) >>= fun y => pure (x == y)).toOption =
        (Boolean.ofText a >>= fun x => Boolean.ofText b >>= fun y => pure (x == y)).toOption
      rw [toOption_both, toOption_both, respells.toOption_ofText_map, respells.toOption_ofText_map]
    | quoted b | decimal b => rfl

theorem toOption_number_map (text : Text) : (number (text.map f)).toOption = (number text).toOption := by
  unfold number
  rw [respells.ofText?_map]
  cases Decimal.ofText? text <;> rfl

theorem toOption_relation_map (split : Split) :
    (relation text' (split.map f)).toOption = (relation text split).toOption := by
  simp only [relation, Split.map, respells.occursIn_map]
  split
  · rfl
  · rw [toOption_both, toOption_both, respells.toOption_number_map, respells.toOption_number_map]

/-! ## Splits -/

theorem value?_operandValue_map {side : Text} (same : (descend (side.map f)).value? = (descend side).value?) :
    (operandValue descend (side.map f)).value? = (operandValue descend side).value? := by
  unfold operandValue
  rw [respells.occursIn_map]
  split
  · exact same
  · exact respells.toOption_ofText_map side

section

variable (kept : StringsKept mode f split.left)
  (left : (descend (split.left.map f)).value? = (descend split.left).value?)
  (right : (descend (split.right.map f)).value? = (descend split.right).value?)
include kept left right

theorem value?_equality_map :
    (equality mode descend text' (split.map f)).value? = (equality mode descend text split).value? := by
  simp only [equality, Split.map, respells.occursIn_map]
  split
  · rw [Traced.value?_both, Traced.value?_both, respells.value?_operandValue_map left,
      respells.value?_operandValue_map right]
  · have strings : ∀ string, Operand.ofText split.left = .quoted string →
        ∀ other : Text, mode.form (other.map f) = mode.form other := by
      intro string read
      rcases Operand.ofText_cases split.left with ⟨quoted, _⟩ | ⟨value, _, decimal⟩ | bare
      · exact kept (List.mem_of_head? quoted.1)
      · simp [decimal] at read
      · simp [bare] at read
    rw [respells.operand_map, respells.operand_map]
    exact respells.toOption_equals_map text text' split.operator strings _

theorem value?_splitValue_map :
    (splitValue mode descend text' (split.map f)).value? = (splitValue mode descend text split).value? := by
  have equal := respells.value?_equality_map text text' kept left right
  obtain ⟨op, _, _⟩ := split
  cases op with
  | or | and =>
    simp only [splitValue, Split.map]
    rw [Traced.value?_both, Traced.value?_both, left, right]
  | eq => exact equal
  | ne =>
    simp only [splitValue, Split.map]
    rw [Traced.value?_bind, Traced.value?_bind]
    exact congrArg (Option.bind · _) equal
  | ge | le | gt | lt => exact respells.toOption_relation_map text text' _

end

end

/-- A respelled text splits where the text does, and spells what the text spells. -/
theorem value?_ungrouped_map {mode : Comparison} {descend : Text → Traced Bool} (depth : Nat)
    (deeper : ∀ side, Steady mode f side → (descend (side.map f)).value? = (descend side).value?) {text : Text}
    (steady : Steady mode f text) :
    (ungrouped mode depth descend (text.map f)).value? = (ungrouped mode depth descend text).value? := by
  have found := respells.first?_map text
  cases here : Split.first? text with
  | none =>
    rw [here] at found
    rw [Traced.value?, Traced.value?, outcome_ungrouped_of_none _ _ _ found, outcome_ungrouped_of_none _ _ _ here]
    exact respells.toOption_ofText_map text
  | some split =>
    rw [here] at found
    obtain ⟨left, right⟩ := steady.sides here
    rw [Traced.value?, Traced.value?, outcome_ungrouped_of_split _ _ _ found, outcome_ungrouped_of_split _ _ _ here]
    exact respells.value?_splitValue_map text _ left.kept (deeper _ left) (deeper _ right)

theorem ungrouped_map {text : Text} (plain : Ungrouped text) : Ungrouped (text.map f) :=
  ⟨fun mem => plain.1 ((respells.mem_map_iff (by decide)).mp mem),
    fun mem => plain.2 ((respells.mem_map_iff (by decide)).mp mem)⟩

theorem value?_reduce_map (mode : Comparison) (limit levels depth : Nat) {text : Text}
    (steady : Steady mode f text) :
    (reduce mode limit levels depth (text.map f)).value? = (reduce mode limit levels depth text).value? := by
  induction levels generalizing depth text with
  | zero => rfl
  | succ levels ih =>
    rw [reduce, reduce, reduceGroups_of_ungrouped _ _ (respells.ungrouped_map steady.plain),
      reduceGroups_of_ungrouped _ _ steady.plain]
    exact respells.value?_ungrouped_map depth (fun side steady => ih (depth + 1) steady) steady

/-! ## Groups -/

theorem depthAfter?_map (depth : Nat) (text : Text) : depthAfter? depth (text.map f) = depthAfter? depth text := by
  induction text generalizing depth with
  | nil => rfl
  | cons c text ih =>
    simp only [List.map_cons, depthAfter?, ih, respells.apply_eq_iff (by decide : Rigid '(') c,
      respells.apply_eq_iff (by decide : Rigid ')') c]

theorem balanced_map_iff (text : Text) : Balanced (text.map f) ↔ Balanced text := by
  rw [balanced_iff, balanced_iff, respells.depthAfter?_map]

/-- The pass over a respelled text keeps respelled texts, and comes to the same value. So many parentheses are open
    as there are texts kept, so that no closing one is without a partner. -/
theorem toOption_onePass_map {mode : Comparison} {value : Text → Except EvalError Bool}
    (same : ∀ text, Steady mode f text → (value (text.map f)).toOption = (value text).toOption) {outer : List Text}
    {buffer text : Text} (closed : (depthAfter? outer.length text).isSome = true) (kept : StringsKept mode f text)
    (read : Steady mode f buffer) (others : ∀ part ∈ outer, Steady mode f part) :
    (onePass value (outer.map (List.map f)) (buffer.map f) (text.map f)).toOption =
      (onePass value outer buffer text).toOption := by
  induction text generalizing outer buffer with
  | nil => exact same buffer read
  | cons c text ih =>
    have opens := respells.apply_eq_iff (by decide : Rigid '(') c
    have closes := respells.apply_eq_iff (by decide : Rigid ')') c
    have rest := kept.of_subset (List.subset_cons_self c text)
    rw [List.map_cons]
    by_cases isOpen : c = '('
    · have next := @ih (buffer :: outer) [] (by simpa [depthAfter?, isOpen] using closed) rest .nil
        (List.forall_mem_cons.mpr ⟨read, others⟩)
      rw [opens.mpr isOpen, isOpen, onePass_open, onePass_open]
      exact next
    · by_cases isClose : c = ')'
      · cases outer with
        | nil => simp [depthAfter?, isClose] at closed
        | cons before outer =>
          obtain ⟨steady, others⟩ := List.forall_mem_cons.mp others
          rw [closes.mpr isClose, isClose, List.map_cons, onePass_close, onePass_close, toOption_bind, toOption_bind,
            same buffer read]
          refine Option.bind_congr fun result _ => ?_
          -- The word for the value is spelled in one way only.
          have next := @ih outer _ (by simpa [depthAfter?, isClose] using closed) rest
            (steady.append (.word result)) others
          rw [List.map_append, respells.map_word] at next
          exact next
      · have char : Steady mode f [c] :=
          ⟨by simp [Ungrouped, Ne.symm isOpen, Ne.symm isClose], kept.of_subset (by simp)⟩
        have next := @ih outer _ (by simpa [depthAfter?, isOpen, isClose] using closed) rest (read.append char) others
        rw [List.map_append] at next
        rw [onePass_char value (isOpen ∘ opens.mp) (isClose ∘ closes.mp), onePass_char value isOpen isClose]
        exact next

end Respells

/-! ## Two respellings -/

theorem map_eq_map_iff {f : Char → Char} {text text' : Text} :
    text.map f = text'.map f ↔ List.Forall₂ (fun c d => f c = f d) text text' := by
  rw [← List.forall₂_eq_eq_eq, List.forall₂_map_left_iff, List.forall₂_map_right_iff]

theorem respells_toLower : Respells Char.toLower where
  interchangeable c := .inl (toLower_toLower c).symm
  map_word value := by cases value <;> decide

/-- Letters in lower case, and points for marks. -/
def folded (c : Char) : Char :=
  if IsMark c then '.' else c.toLower

theorem respells_folded : Respells folded where
  interchangeable c := by
    unfold folded
    split
    · exact .inr ⟨‹_›, .inl rfl⟩
    · exact respells_toLower.interchangeable c
  map_word value := by cases value <;> decide

theorem folded_eq {c d : Char} (same : Interchangeable c d) : folded c = folded d := by
  unfold folded
  simp only [same.isMark_iff]
  split
  · rfl
  · rename_i other
    exact same.resolve_right fun marks => other marks.1

theorem lowercase_of_isAlpha {c : Char} (letter : c.isAlpha = true) : Unicode.lowercase c = [c.toLower] := by
  have ascii : c.toNat < 0x80 := by
    have bounds := toNat_of_isAlpha letter
    omega
  have lower := Unicode.lowercase_of_ascii c.toNat ascii
  rwa [Char.ofNat_toNat] at lower

theorem lowercase_toLower (c : Char) : Unicode.lowercase c.toLower = Unicode.lowercase c := by
  by_cases letter : c.isAlpha = true
  · have lower : c.toLower.isAlpha = true := (isAlpha_toLower c).trans letter
    rw [lowercase_of_isAlpha lower, lowercase_of_isAlpha letter, toLower_toLower]
  · rw [toLower_of_not_isAlpha (Bool.eq_false_iff.mpr letter)]

/-- Letters in another case make the same form if strings are compared in lower case. -/
theorem form_map_toLower (string : Text) :
    Comparison.caseInsensitive.form (string.map Char.toLower) = Comparison.caseInsensitive.form string := by
  simp only [Comparison.form, List.flatMap_map, lowercase_toLower]

namespace Evaluator

variable (evaluator : Evaluator) (positive : evaluator.config.maxDepth ≠ 0) {expression : Text}
include positive

/-- A respelled expression has the value of the expression if the strings of the expression are kept. -/
theorem evaluate_map {f : Char → Char} (respells : Respells f)
    (kept : StringsKept evaluator.config.comparison f expression) (value : Bool) :
    evaluator.evaluate (expression.map f) = .ok value ↔ evaluator.evaluate expression = .ok value := by
  rw [evaluate_eq_ok_iff_onePass evaluator positive, evaluate_eq_ok_iff_onePass evaluator positive,
    respells.balanced_map_iff]
  refine and_congr_right fun balanced => ?_
  have groups : ∀ text, Steady evaluator.config.comparison f text →
      (evaluator.ungroupedValue (text.map f)).toOption = (evaluator.ungroupedValue text).toOption :=
    fun _ => respells.value?_ungrouped_map 1 fun _ => respells.value?_reduce_map _ _ _ 2
  have closed : (depthAfter? ([] : List Text).length expression).isSome = true := by simp [balanced.depthAfter?_eq]
  have same := respells.toOption_onePass_map groups closed kept .nil (by simp)
  rw [← toOption_eq_some_iff, ← toOption_eq_some_iff]
  exact iff_of_eq (congrArg (· = some value) same)

/-- Where strings do not count, an expression has the value of any other with the same letters and with marks in the
    same places. -/
theorem evaluate_eq_ok_iff_of_respelled {respelled : Text} :
    ('"' ∉ expression → List.Forall₂ Interchangeable expression respelled →
      ∀ value, evaluator.evaluate expression = .ok value ↔ evaluator.evaluate respelled = .ok value) ∧
    (evaluator.config.comparison = .caseInsensitive → List.Forall₂ SameLetter expression respelled →
      ∀ value, evaluator.evaluate expression = .ok value ↔ evaluator.evaluate respelled = .ok value) := by
  have through : ∀ {f : Char → Char}, Respells f → expression.map f = respelled.map f →
      StringsKept evaluator.config.comparison f expression → StringsKept evaluator.config.comparison f respelled →
      ∀ value, evaluator.evaluate expression = .ok value ↔ evaluator.evaluate respelled = .ok value := by
    intro f respells same first second value
    rw [← evaluate_map evaluator positive respells first, same, evaluate_map evaluator positive respells second]
  constructor
  · intro unquoted letters
    have same : expression.map folded = respelled.map folded :=
      map_eq_map_iff.mpr (letters.imp fun _ _ => folded_eq)
    have unquoted' : '"' ∉ respelled := by
      have quote : Rigid '"' := by decide
      rwa [← respells_folded.mem_map_iff quote, ← same, respells_folded.mem_map_iff quote]
    exact through respells_folded same (fun mem => absurd mem unquoted) fun mem => absurd mem unquoted'
  · intro mode letters
    have same : expression.map Char.toLower = respelled.map Char.toLower := map_eq_map_iff.mpr letters
    have kept : ∀ text, StringsKept evaluator.config.comparison Char.toLower text := by
      intro text _
      rw [mode]
      exact form_map_toLower
    exact through respells_toLower same (kept expression) (kept respelled)

omit positive in
/-- The groups of the first expression are not copies of each other, and those of the second are. It is the other way
    round with the strings. -/
theorem evaluate_eq_ok_iff_of_respelled_copied :
    let expression := "(1,5<2) && ((1.5<2) != FALSE)".toList
    let respelled := "(1.5<2) && ((1.5<2) != False)".toList
    let strings := "(\"x\"==\"X\") && !(\"x\"==\"X\") == FALSE".toList
    let recased := "(\"x\"==\"x\") && !(\"X\"==\"x\") == false".toList
    '"' ∉ expression ∧ List.Forall₂ Interchangeable expression respelled ∧ List.Forall₂ SameLetter strings recased ∧
      (default : Evaluator).evaluate respelled = .ok true ∧
      evaluate ⟨⟨.caseInsensitive, 2⟩⟩ recased = .ok true := by
  intro expression respelled strings recased
  have unquoted : '"' ∉ expression := by decide
  have letters : List.Forall₂ Interchangeable expression respelled := by decide +kernel
  have cased : List.Forall₂ SameLetter strings recased := by decide +kernel
  have known : (default : Evaluator).evaluate expression = .ok true := by decide +kernel
  have equal : evaluate ⟨⟨.caseInsensitive, 2⟩⟩ strings = .ok true := by decide +kernel
  exact ⟨unquoted, letters, cased,
    ((evaluate_eq_ok_iff_of_respelled default (by decide)).1 unquoted letters true).mp known,
    ((evaluate_eq_ok_iff_of_respelled ⟨⟨.caseInsensitive, 2⟩⟩ (by decide)).2 rfl cased true).mp equal⟩

end Evaluator
end Verdict
