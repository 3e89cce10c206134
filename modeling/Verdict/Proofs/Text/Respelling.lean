import Verdict.Decimal.Literal
import Verdict.Proofs.Boolean
import Verdict.Split

/-!
# Respelled texts

Letters may be in either case, and one decimal mark may stand for the other. A map on characters that changes nothing
else (`Respells`) keeps white space, digits and the characters of operators. So a respelled text is trimmed, cut and
split where the text itself is.
-/
namespace Verdict

open DecimalLiteral (IsMark)

/-! ## Characters -/

/-- The same character, or the same letter of ASCII in another case. -/
def SameLetter (c d : Char) : Prop :=
  c.toLower = d.toLower

instance (c d : Char) : Decidable (SameLetter c d) :=
  inferInstanceAs (Decidable (c.toLower = d.toLower))

/-- The same letter, or two decimal marks. -/
def Interchangeable (c d : Char) : Prop :=
  SameLetter c d ∨ IsMark c ∧ IsMark d

instance (c d : Char) : Decidable (Interchangeable c d) :=
  inferInstanceAs (Decidable (_ ∨ _))

/-- A character that stands for itself only. -/
def Rigid (c : Char) : Prop :=
  c.isAlpha = false ∧ ¬ IsMark c

instance (c : Char) : Decidable (Rigid c) :=
  inferInstanceAs (Decidable (_ ∧ _))

theorem IsMark.isAlpha_eq {c : Char} (mark : IsMark c) : c.isAlpha = false := by
  rcases mark with rfl | rfl <;> decide

theorem toLower_of_not_isUpper {c : Char} (other : c.isUpper = false) : c.toLower = c :=
  dif_neg (of_decide_eq_false other)

theorem isAlpha_of_isUpper {c : Char} (upper : c.isUpper = true) : c.isAlpha = true := by
  show (c.isUpper || c.isLower) = true
  rw [upper, Bool.true_or]

theorem toLower_of_not_isAlpha {c : Char} (other : c.isAlpha = false) : c.toLower = c :=
  toLower_of_not_isUpper (Bool.eq_false_iff.mpr fun upper => by simp [isAlpha_of_isUpper upper] at other)

/-- An upper-case letter becomes one from `a` to `z`. -/
theorem toLower_bounds {c : Char} (upper : c.isUpper = true) : 'a'.val ≤ c.toLower.val ∧ c.toLower.val ≤ 'z'.val := by
  have bounds : 'A'.val ≤ c.val ∧ c.val ≤ 'Z'.val := of_decide_eq_true upper
  have lower : c.toLower.val = c.val + ('a'.val - 'A'.val) := congrArg Char.val (dif_pos bounds)
  simp [lower, UInt32.le_iff_toNat_le] at bounds ⊢
  omega

theorem isAlpha_toLower (c : Char) : c.toLower.isAlpha = c.isAlpha := by
  cases upper : c.isUpper with
  | true =>
    obtain ⟨first, last⟩ := toLower_bounds upper
    rw [isAlpha_of_isUpper upper]
    show (c.toLower.isUpper || (decide ('a'.val ≤ c.toLower.val) && decide (c.toLower.val ≤ 'z'.val))) = true
    rw [decide_eq_true first, decide_eq_true last, Bool.and_true, Bool.or_true]
  | false => rw [toLower_of_not_isUpper upper]

theorem toLower_toLower (c : Char) : c.toLower.toLower = c.toLower := by
  cases upper : c.isUpper with
  | true =>
    obtain ⟨first, _⟩ := toLower_bounds upper
    refine dif_neg fun bounds => ?_
    simp [UInt32.le_iff_toNat_le] at first bounds
    omega
  | false => rw [toLower_of_not_isUpper upper, toLower_of_not_isUpper upper]

theorem Rigid.of_isWhitespace {c : Char} (white : Text.isWhitespace c = true) : Rigid c := by
  refine ⟨Bool.eq_false_iff.mpr fun letter => ?_, ?_⟩
  · simp [isWhitespace_of_isAlpha letter] at white
  · rintro (rfl | rfl) <;> exact absurd white (by decide)

theorem Rigid.of_isDigit {c : Char} (digit : c.isDigit = true) : Rigid c := by
  refine ⟨Bool.eq_false_iff.mpr fun letter => ?_, ?_⟩
  · simp [not_isDigit_of_isAlpha letter] at digit
  · rintro (rfl | rfl) <;> exact absurd digit (by decide)

theorem SameLetter.isAlpha_eq {c d : Char} (same : SameLetter c d) : d.isAlpha = c.isAlpha := by
  rw [← isAlpha_toLower d, ← same, isAlpha_toLower]

theorem SameLetter.eq_of_not_isAlpha {c d : Char} (same : SameLetter c d) (other : c.isAlpha = false) : d = c := by
  rw [← toLower_of_not_isAlpha other, same, toLower_of_not_isAlpha (same.isAlpha_eq.trans other)]

namespace Interchangeable

variable {c d : Char}

theorem symm (same : Interchangeable c d) : Interchangeable d c :=
  same.imp Eq.symm And.symm

theorem eq_of_rigid (same : Interchangeable c d) (rigid : Rigid c) : d = c := by
  rcases same with letter | ⟨mark, _⟩
  · exact letter.eq_of_not_isAlpha rigid.1
  · exact absurd mark rigid.2

theorem isAlpha_eq (same : Interchangeable c d) : d.isAlpha = c.isAlpha := by
  rcases same with letter | ⟨first, second⟩
  · exact letter.isAlpha_eq
  · rw [IsMark.isAlpha_eq first, IsMark.isAlpha_eq second]

theorem toLower_eq (same : Interchangeable c d) (letter : c.isAlpha = true) : d.toLower = c.toLower := by
  rcases same with same | ⟨mark, _⟩
  · exact same.symm
  · simp [IsMark.isAlpha_eq mark] at letter

theorem isMark (same : Interchangeable c d) (mark : IsMark c) : IsMark d := by
  rcases same with letter | ⟨_, second⟩
  · rwa [letter.eq_of_not_isAlpha (IsMark.isAlpha_eq mark)]
  · exact second

theorem isMark_iff (same : Interchangeable c d) : IsMark d ↔ IsMark c :=
  ⟨same.symm.isMark, same.isMark⟩

/-- A property that only rigid characters have holds of both characters or of neither. -/
theorem eq_of_imp_rigid {p : Char → Bool} (same : Interchangeable c d) (rigid : ∀ {c}, p c = true → Rigid c) :
    p d = p c := by
  refine Bool.eq_iff_iff.mpr ⟨fun holds => ?_, fun holds => ?_⟩
  · rwa [same.symm.eq_of_rigid (rigid holds)]
  · rwa [same.eq_of_rigid (rigid holds)]

end Interchangeable

/-- A map that takes letters to the same letters, marks to marks and anything else to itself. The words for truth
    values stay as they are. -/
structure Respells (f : Char → Char) : Prop where
  interchangeable : ∀ c, Interchangeable c (f c)
  map_word : ∀ value, (Boolean.word value).map f = Boolean.word value

namespace Respells

variable {f : Char → Char} (respells : Respells f)
include respells

theorem apply_eq_iff {d : Char} (rigid : Rigid d) (c : Char) : f c = d ↔ c = d := by
  constructor
  · rintro rfl
    exact (respells.interchangeable c).symm.eq_of_rigid rigid
  · rintro rfl
    exact (respells.interchangeable c).eq_of_rigid rigid

theorem isWhitespace_comp : Text.isWhitespace ∘ f = Text.isWhitespace :=
  funext fun c => (respells.interchangeable c).eq_of_imp_rigid .of_isWhitespace

theorem isDigit_comp : Char.isDigit ∘ f = Char.isDigit :=
  funext fun c => (respells.interchangeable c).eq_of_imp_rigid .of_isDigit

theorem isWhitespace_apply (c : Char) : Text.isWhitespace (f c) = Text.isWhitespace c :=
  congrFun respells.isWhitespace_comp c

/-! ## Texts -/

theorem mem_map_iff {c : Char} (rigid : Rigid c) {text : Text} : c ∈ text.map f ↔ c ∈ text := by
  simp only [List.mem_map, respells.apply_eq_iff rigid, exists_eq_right]

/-- Digits are kept as they are. -/
theorem map_of_isDigits {text : Text} (digits : Text.IsDigits text) : text.map f = text := by
  refine (List.map_congr_left fun c mem => ?_).trans (List.map_id text)
  exact (respells.apply_eq_iff (.of_isDigit (digits c mem)) c).mpr rfl

theorem trim_map (text : Text) : Text.trim (text.map f) = (Text.trim text).map f := by
  simp only [Text.trim, Text.trimEnd, List.dropWhile_map, ← List.map_reverse, respells.isWhitespace_comp]

section

variable {pattern : Text} (rigid : ∀ c ∈ pattern, Rigid c)
include rigid

theorem isPrefixOf?_map (text : Text) :
    pattern.isPrefixOf? (text.map f) = (pattern.isPrefixOf? text).map (List.map f) := by
  induction pattern generalizing text with
  | nil => rfl
  | cons p pattern ih =>
    cases text with
    | nil => rfl
    | cons c text =>
      have same : p = f c ↔ p = c := by
        rw [eq_comm, respells.apply_eq_iff (rigid p (by simp)), eq_comm]
      simp only [List.map_cons, Text.isPrefixOf?_cons_cons, same, ih fun c mem => rigid c (by simp [mem])]
      split <;> rfl

theorem cut?_map (text : Text) :
    Text.cut? pattern (text.map f) = (Text.cut? pattern text).map (Prod.map (List.map f) (List.map f)) := by
  induction text with
  | nil =>
    simp only [List.map_nil, Text.cut?]
    split <;> rfl
  | cons c text ih =>
    rw [List.map_cons, Text.cut?, Text.cut?, ← List.map_cons, respells.isPrefixOf?_map rigid, ih]
    cases pattern.isPrefixOf? (c :: text) with
    | some after => rfl
    | none =>
      cases Text.cut? pattern text <;> rfl

end

end Respells

/-! ## Splits -/

/-- A split with both of its sides respelled. -/
def Split.map (f : Char → Char) (split : Split) : Split :=
  ⟨split.operator, split.left.map f, split.right.map f⟩

theorem Operator.rigid_symbol (op : Operator) : ∀ c ∈ op.symbol, Rigid c := by
  cases op <;> simp [symbol, Rigid, IsMark]

namespace Respells

variable {f : Char → Char} (respells : Respells f)
include respells

theorem at?_map (text : Text) (op : Operator) : Split.at? (text.map f) op = (Split.at? text op).map (Split.map f) := by
  unfold Split.at?
  rw [respells.cut?_map op.rigid_symbol]
  cases Text.cut? op.symbol text with
  | none => rfl
  | some sides =>
    simp only [Option.map_some, Prod.map_fst, Prod.map_snd, respells.trim_map, List.map_eq_nil_iff]
    split <;> rfl

theorem first?_map (text : Text) : Split.first? (text.map f) = (Split.first? text).map (Split.map f) := by
  rw [Split.first?, Split.first?, funext (respells.at?_map text), List.map_findSome?]
  rfl

theorem occursIn_map (text : Text) : Operator.occursIn (text.map f) = Operator.occursIn text := by
  simp only [Operator.occursIn, respells.cut?_map (Operator.rigid_symbol _), Option.isSome_map]

end Respells

end Verdict
