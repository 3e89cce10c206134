import Mathlib.Algebra.Order.Floor.Semiring
import Mathlib.Data.Nat.Find
import Mathlib.Data.Rat.Floor
import Mathlib.Tactic.FieldSimp
import Mathlib.Tactic.Linarith
import Mathlib.Tactic.NormNum
import Mathlib.Tactic.Ring
import Verdict.Decimal.Value
import Verdict.Proofs.Boolean

/-!
# Rounding of numbers

Which rational number is read where a literal has more digits than fit. As many places are kept as fit (`Keeps`), and
the last one is rounded, a half upwards (`rounded`). A number keeps the fewer places the larger it is, and still it is
never rounded to less than a smaller number is (`rounded_le_rounded`). The digits of a literal are read as the number
that they stand for, rounded in this way (`Magnitude.value_of_extend?`).
-/
namespace Verdict

theorem coefficientBound_cast : (coefficientBound : ℚ) = 79228162514264337593543950336 :=
  Nat.cast_ofNat

/-! ## Rounding rationals -/

/-- The places that are kept of a number: 28 of them, or so many that the coefficient does not fit with one more. -/
structure Keeps (x : ℚ) (places : ℕ) : Prop where
  le : places ≤ 28
  fits : x * 10 ^ places < coefficientBound
  most : places = 28 ∨ coefficientBound ≤ x * 10 ^ (places + 1)

/-- The coefficient of a number rounded to so many places, a half upwards. -/
def nearest (x : ℚ) (places : ℕ) : ℕ :=
  ⌊x * 10 ^ places + 1 / 2⌋₊

/-- A number rounded to so many places. A coefficient that does not fit any more once it is rounded is rounded again,
    to one place fewer, by which it grows by four in the place that it loses. -/
def rounded (x : ℚ) (places : ℕ) : ℚ :=
  (if nearest x places < coefficientBound then nearest x places else nearest x places + 4 : ℕ) / 10 ^ places

section

variable {x y : ℚ} {places more : ℕ}

theorem exists_keeps (small : x < coefficientBound) : ∃ places, Keeps x places := by
  let Fits (places : ℕ) : Prop := x * 10 ^ places < coefficientBound
  have whole : Fits 0 := by simpa [Fits] using small
  refine ⟨Nat.findGreatest Fits 28, Nat.findGreatest_le 28, Nat.findGreatest_spec (Nat.zero_le 28) whole, ?_⟩
  by_cases all : Nat.findGreatest Fits 28 = 28
  · exact .inl all
  · have bound := Nat.findGreatest_le (P := Fits) 28
    have exceeds : ¬ Fits (Nat.findGreatest Fits 28 + 1) :=
      Nat.findGreatest_is_greatest (Nat.lt_succ_self _) (by omega)
    exact .inr (not_lt.mp exceeds)

/-- A larger number keeps no more places. -/
theorem Keeps.le_of_le (nonneg : 0 ≤ x) (le : x ≤ y) (first : Keeps x places) (second : Keeps y more) :
    more ≤ places := by
  by_contra fewer
  have below : places + 1 ≤ more := by omega
  have most : (coefficientBound : ℚ) ≤ x * 10 ^ (places + 1) := by
    refine first.most.resolve_left fun all => ?_
    have := second.le
    omega
  have grows : x * 10 ^ (places + 1) ≤ y * 10 ^ more := by
    have powers : (10 : ℚ) ^ (places + 1) ≤ 10 ^ more := pow_le_pow_right₀ (by norm_num) below
    exact mul_le_mul le powers (by positivity) (nonneg.trans le)
  exact absurd second.fits (not_lt.mpr (most.trans grows))

theorem Keeps.nearest_le (nonneg : 0 ≤ x) (keeps : Keeps x places) : nearest x places ≤ coefficientBound := by
  have scaled : 0 ≤ x * 10 ^ places := by positivity
  have fits := keeps.fits
  refine Nat.lt_succ_iff.mp ((Nat.floor_lt (by linarith)).mpr ?_)
  push_cast at fits ⊢
  linarith

theorem nearest_mono (le : x ≤ y) (places : ℕ) : nearest x places ≤ nearest y places := by
  refine Nat.floor_mono ?_
  have scaled : x * 10 ^ places ≤ y * 10 ^ places := mul_le_mul_of_nonneg_right le (by positivity)
  linarith

/-- A coefficient that does not fit with one more place is rounded to at least a tenth of the bound, upwards. -/
theorem le_nearest (large : (coefficientBound : ℚ) ≤ x * 10 ^ (places + 1)) :
    (coefficientBound + 4) / 10 ≤ nearest x places := by
  refine Nat.le_floor ?_
  rw [coefficientBound_cast, pow_succ, ← mul_assoc] at large
  norm_num
  linarith

/-- A number is never rounded to less than a smaller number is. -/
theorem rounded_le_rounded (nonneg : 0 ≤ x) (le : x ≤ y) (first : Keeps x places) (second : Keeps y more) :
    rounded x places ≤ rounded y more := by
  rcases (first.le_of_le nonneg le second).eq_or_lt with rfl | fewer
  · have coefficients := nearest_mono le more
    refine div_le_div_of_nonneg_right (Nat.cast_le.mpr ?_) (by positivity)
    split
    · split <;> omega
    · rw [if_neg (by omega)]
      omega
  · -- The larger number keeps fewer places: a multiple of ten stands between the two.
    have large : (coefficientBound : ℚ) ≤ y * 10 ^ (more + 1) := by
      refine second.most.resolve_left fun all => ?_
      have := first.le
      omega
    have lower := le_nearest large
    have upper := first.nearest_le nonneg
    have powers : (10 : ℚ) ^ (more + 1) ≤ 10 ^ places := pow_le_pow_right₀ (by norm_num) fewer
    calc rounded x places ≤ (coefficientBound + 4 : ℕ) / 10 ^ places := by
          refine div_le_div_of_nonneg_right (Nat.cast_le.mpr ?_) (by positivity)
          split <;> omega
      _ ≤ (coefficientBound + 4 : ℕ) / 10 ^ (more + 1) :=
          div_le_div_of_nonneg_left (Nat.cast_nonneg _) (by positivity) powers
      _ = ((coefficientBound + 4) / 10 : ℕ) / 10 ^ more := by
          rw [pow_succ]
          norm_num
          ring
      _ ≤ rounded y more := by
          refine div_le_div_of_nonneg_right (Nat.cast_le.mpr ?_) (by positivity)
          split <;> omega

/-- A number whose digits all fit is not changed. -/
theorem rounded_eq_self {n : ℕ} (keeps : Keeps x places) (whole : x * 10 ^ places = n) : rounded x places = x := by
  have fits := keeps.fits
  rw [whole, Nat.cast_lt] at fits
  have coefficient : nearest x places = n := by
    rw [nearest, whole, Nat.floor_eq_iff (by positivity)]
    constructor <;> norm_num
  rw [rounded, coefficient, if_pos fits, ← whole]
  field_simp

/-- A coefficient that fits, with places that fit, is not changed. -/
theorem rounded_div {n : ℕ} (small : n < coefficientBound) (few : places ≤ 28)
    (keeps : Keeps (n / 10 ^ places) more) : rounded (n / 10 ^ places) more = n / 10 ^ places := by
  -- All these places are kept, for the coefficient fits with them.
  have kept : places ≤ more := by
    by_contra fewer
    have large : (coefficientBound : ℚ) ≤ n / 10 ^ places * 10 ^ (more + 1) := keeps.most.resolve_left (by omega)
    have powers : (10 : ℚ) ^ (more + 1) ≤ 10 ^ places := pow_le_pow_right₀ (by norm_num) (by omega)
    have scaled : (n : ℚ) / 10 ^ places * 10 ^ (more + 1) ≤ n := by
      rw [div_mul_eq_mul_div, div_le_iff₀ (by positivity)]
      exact mul_le_mul_of_nonneg_left powers (Nat.cast_nonneg _)
    exact absurd (Nat.cast_lt.mpr small) (not_lt.mpr (large.trans scaled))
  refine rounded_eq_self (n := n * 10 ^ (more - places)) keeps ?_
  obtain ⟨rest, rfl⟩ := Nat.exists_eq_add_of_le kept
  rw [Nat.add_sub_cancel_left, pow_add]
  push_cast
  field_simp

end

/-- A number of the form that a coefficient and its places have, with a sign. -/
def IsRepresentable (x : ℚ) : Prop :=
  ∃ (m : ℤ) (places : ℕ), |m| ≤ 2 ^ 96 - 1 ∧ places ≤ 28 ∧ x = m / 10 ^ places

theorem IsRepresentable.exists_abs_eq {x : ℚ} (representable : IsRepresentable x) :
    ∃ n places, n < coefficientBound ∧ places ≤ 28 ∧ |x| = n / 10 ^ places := by
  obtain ⟨m, places, bound, few, rfl⟩ := representable
  refine ⟨m.natAbs, places, ?_, few, ?_⟩
  · rw [Int.abs_eq_natAbs] at bound
    change m.natAbs < 79228162514264337593543950336
    omega
  · rw [abs_div, abs_of_pos (show (0 : ℚ) < 10 ^ places by positivity), Nat.cast_natAbs, Int.cast_abs]

/-- A number of that form is less than half a unit above the largest coefficient. -/
theorem IsRepresentable.abs_lt {x : ℚ} (representable : IsRepresentable x) : |x| < 2 ^ 96 - 1 / 2 := by
  obtain ⟨n, places, small, _, size⟩ := representable.exists_abs_eq
  have whole : (n + 1 : ℚ) ≤ coefficientBound := by exact_mod_cast small
  have scaled : (n : ℚ) / 10 ^ places ≤ n := div_le_self (Nat.cast_nonneg n) (one_le_pow₀ (by norm_num))
  rw [coefficientBound_cast] at whole
  rw [size]
  norm_num
  linarith

theorem IsRepresentable.rounded_eq {x : ℚ} {places : ℕ} (representable : IsRepresentable x)
    (keeps : Keeps |x| places) : rounded |x| places = |x| := by
  obtain ⟨n, few, small, most, same⟩ := representable.exists_abs_eq
  rw [same] at keeps ⊢
  exact rounded_div small most keeps

/-! ## Reading digits -/

theorem ofDigitChars_cons (c : Char) (rest : Text) (init : ℕ) :
    Nat.ofDigitChars 10 (c :: rest) init = Nat.ofDigitChars 10 rest (init * 10 + digitValue c) := by
  rw [Nat.ofDigitChars_cons, Nat.mul_comm]
  rfl

/-- Digits behind a whole number give a number between what zeros and what nines would give. -/
theorem ofDigitChars_bounds {text : Text} (digits : Text.IsDigits text) (init : ℕ) :
    init * 10 ^ text.length ≤ Nat.ofDigitChars 10 text init ∧
      Nat.ofDigitChars 10 text init < (init + 1) * 10 ^ text.length := by
  induction text generalizing init with
  | nil => simp
  | cons c rest ih =>
    have single : digitValue c + 1 ≤ 10 := by
      have range := toNat_of_isDigit (digits c (by simp))
      have zero : '0'.toNat = 48 := rfl
      unfold digitValue
      omega
    have tail : Text.IsDigits rest := fun d mem => digits d (by simp [mem])
    obtain ⟨lower, upper⟩ := ih tail (init * 10 + digitValue c)
    rw [ofDigitChars_cons, List.length_cons, pow_succ', ← Nat.mul_assoc, ← Nat.mul_assoc]
    constructor
    · exact le_trans (Nat.mul_le_mul_right _ (by omega)) lower
    · exact lt_of_lt_of_le upper (Nat.mul_le_mul_right _ (by omega))

namespace Magnitude

variable {m longer : Magnitude} {c : Char} {rest text : Text}

theorem extend?_nil (m : Magnitude) : m.extend? [] = some m := (rfl)

theorem extend?_cons (m : Magnitude) (c : Char) (rest : Text) :
    m.extend? (c :: rest) =
      match m.append? (digitValue c) with
      | some longer => longer.extend? rest
      | none => if digitValue c < 5 then some m else m.raise? := (rfl)

/-- The rational number that a number is with all the digits behind it. -/
def followedBy (m : Magnitude) (text : Text) : ℚ :=
  Nat.ofDigitChars 10 text m.coefficient / 10 ^ (m.scale + text.length)

theorem followedBy_nil (m : Magnitude) : m.followedBy [] = m.value := by
  simp [followedBy, value]

theorem scale_of_append? {digit : ℕ} (fits : m.append? digit = some longer) : longer.scale = m.scale + 1 := by
  unfold append? at fits
  split at fits
  · obtain rfl := Option.some.inj fits
    rfl
  · simp at fits

/-- What a number is with the digits behind it stays the same while these are read. -/
theorem followedBy_of_append? (fits : m.append? (digitValue c) = some longer) :
    longer.followedBy rest = m.followedBy (c :: rest) := by
  unfold append? at fits
  split at fits
  · obtain rfl := Option.some.inj fits
    rw [followedBy, followedBy, ofDigitChars_cons, List.length_cons, Nat.add_right_comm, Nat.add_assoc]
  · simp at fits

/-- The coefficient is the number without the digits behind it. -/
theorem followedBy_bounds (m : Magnitude) (digits : Text.IsDigits text) :
    m.coefficient ≤ m.followedBy text * 10 ^ m.scale ∧ m.followedBy text * 10 ^ m.scale < m.coefficient + 1 := by
  obtain ⟨lower, upper⟩ := ofDigitChars_bounds digits m.coefficient
  have scaled : m.followedBy text * 10 ^ m.scale =
      Nat.ofDigitChars 10 text m.coefficient / 10 ^ text.length := by
    rw [followedBy, pow_add]
    field_simp
  rw [scaled, le_div_iff₀ (by positivity), div_lt_iff₀ (by positivity)]
  exact ⟨by exact_mod_cast lower, by exact_mod_cast upper⟩

theorem followedBy_nonneg (m : Magnitude) (text : Text) : 0 ≤ m.followedBy text := by
  unfold followedBy
  positivity

/-- With one more digit, the same of the coefficient and that digit. -/
theorem followedBy_cons_bounds (m : Magnitude) (digits : Text.IsDigits (c :: rest)) :
    (m.coefficient * 10 + digitValue c : ℕ) ≤ m.followedBy (c :: rest) * 10 ^ (m.scale + 1) ∧
      m.followedBy (c :: rest) * 10 ^ (m.scale + 1) < (m.coefficient * 10 + digitValue c : ℕ) + 1 := by
  have tail : Text.IsDigits rest := fun d mem => digits d (by simp [mem])
  obtain ⟨lower, upper⟩ := ofDigitChars_bounds tail (m.coefficient * 10 + digitValue c)
  have scaled : m.followedBy (c :: rest) * 10 ^ (m.scale + 1) =
      Nat.ofDigitChars 10 rest (m.coefficient * 10 + digitValue c) / 10 ^ rest.length := by
    rw [followedBy, ofDigitChars_cons, List.length_cons, Nat.add_comm rest.length, ← Nat.add_assoc, pow_add]
    field_simp
  rw [scaled, le_div_iff₀ (by positivity), div_lt_iff₀ (by positivity)]
  exact ⟨by exact_mod_cast lower, by exact_mod_cast upper⟩

/-- Where a digit does not fit behind a number, the places that the number has are those that are kept. -/
theorem keeps_of_append? (digits : Text.IsDigits (c :: rest)) (full : m.append? (digitValue c) = none) :
    Keeps (m.followedBy (c :: rest)) m.scale := by
  refine ⟨m.scale_le, ?_, ?_⟩
  · have upper := (m.followedBy_bounds digits).2
    have fits : (m.coefficient + 1 : ℚ) ≤ coefficientBound := by exact_mod_cast m.coefficient_lt
    exact lt_of_lt_of_le upper fits
  · by_cases all : m.scale = 28
    · exact .inl all
    · have exceeds : coefficientBound ≤ m.coefficient * 10 + digitValue c := by
        by_contra fits
        have room := m.scale_le
        rw [append?, dif_pos ⟨by omega, by omega⟩] at full
        simp at full
      exact .inr (le_trans (Nat.cast_le.mpr exceeds) (m.followedBy_cons_bounds digits).1)

/-- The first digit that does not fit tells how the number is rounded. -/
theorem nearest_followedBy (m : Magnitude) (digits : Text.IsDigits (c :: rest)) :
    nearest (m.followedBy (c :: rest)) m.scale = if digitValue c < 5 then m.coefficient else m.coefficient + 1 := by
  obtain ⟨lower, upper⟩ := m.followedBy_cons_bounds digits
  obtain ⟨least, most⟩ := m.followedBy_bounds digits
  rw [pow_succ, ← mul_assoc] at lower upper
  push_cast at lower upper
  rw [nearest, Nat.floor_eq_iff (by have := m.followedBy_nonneg (c :: rest); positivity)]
  split
  · rename_i low
    have small : (digitValue c : ℚ) + 1 ≤ 5 := by exact_mod_cast low
    constructor <;> linarith
  · rename_i high
    have large : (5 : ℚ) ≤ digitValue c := by exact_mod_cast not_lt.mp high
    push_cast
    constructor <;> linarith

theorem value_of_raise? {raised : Magnitude} (fits : m.raise? = some raised) :
    raised.value =
      (if m.coefficient + 1 < coefficientBound then m.coefficient + 1 else m.coefficient + 1 + 4 : ℕ) /
        10 ^ m.scale := by
  unfold raise? at fits
  split at fits
  · rename_i small
    obtain rfl := Option.some.inj fits
    rw [if_pos small, value]
  · rename_i large
    split at fits
    · simp at fits
    · rename_i placed
      obtain rfl := Option.some.inj fits
      obtain ⟨places, shape⟩ := Nat.exists_eq_succ_of_ne_zero placed
      have bound : m.coefficient < 79228162514264337593543950336 := m.coefficient_lt
      have beyond : ¬ m.coefficient + 1 < 79228162514264337593543950336 := large
      have same : m.coefficient + 1 + 4 = (m.coefficient + 1 + 4) / 10 * 10 := by omega
      rw [if_neg large, value]
      simp only [shape, Nat.succ_sub_one, Nat.succ_eq_add_one, pow_succ]
      conv_rhs => rw [same]
      push_cast
      field_simp

/-- Digits behind a number are read as what they and the number stand for, rounded to the places that are kept. -/
theorem value_of_extend? {read : Magnitude} (digits : Text.IsDigits text) (known : m.extend? text = some read) :
    ∃ places, Keeps (m.followedBy text) places ∧ read.value = rounded (m.followedBy text) places := by
  induction text generalizing m with
  | nil =>
    rw [extend?_nil] at known
    obtain rfl := Option.some.inj known
    rw [followedBy_nil]
    have scaled : m.value ≤ m.coefficient := div_le_self (Nat.cast_nonneg _) (one_le_pow₀ (by norm_num))
    obtain ⟨places, keeps⟩ := exists_keeps (lt_of_le_of_lt scaled (Nat.cast_lt.mpr m.coefficient_lt))
    exact ⟨places, keeps, (rounded_div m.coefficient_lt m.scale_le keeps).symm⟩
  | cons c rest ih =>
    rw [extend?_cons] at known
    split at known
    · rename_i longer fits
      rw [← followedBy_of_append? fits]
      exact ih (fun d mem => digits d (by simp [mem])) known
    · rename_i full
      refine ⟨m.scale, keeps_of_append? digits full, ?_⟩
      rw [rounded, nearest_followedBy m digits]
      split at known
      · rename_i low
        obtain rfl := Option.some.inj known
        rw [if_pos low, if_pos m.coefficient_lt, value]
      · rename_i high
        rw [if_neg high, value_of_raise? known]

theorem raise?_eq_none_iff : m.raise? = none ↔ m.scale = 0 ∧ coefficientBound ≤ m.coefficient + 1 := by
  unfold raise?
  by_cases small : m.coefficient + 1 < coefficientBound
  · simp [small]
  · by_cases whole : m.scale = 0
    · simp [small, whole, not_lt.mp small]
    · simp [small, whole]

/-- A number without places is too large with the digits behind it if its coefficient does not fit once it is
    rounded. With a place it never is, for the place may be given up. -/
theorem extend?_eq_none_iff (digits : Text.IsDigits text) :
    m.extend? text = none ↔ m.scale = 0 ∧ coefficientBound ≤ nearest (m.followedBy text) 0 := by
  induction text generalizing m with
  | nil =>
    rw [extend?_nil, followedBy_nil]
    simp only [reduceCtorEq, false_iff, not_and, not_le]
    intro unplaced
    rw [nearest, value, unplaced, Nat.floor_lt (by positivity)]
    have whole : (m.coefficient + 1 : ℚ) ≤ coefficientBound := by exact_mod_cast m.coefficient_lt
    norm_num at whole ⊢
    linarith
  | cons c rest ih =>
    rw [extend?_cons]
    split
    · rename_i longer fits
      have tail : Text.IsDigits rest := fun d mem => digits d (by simp [mem])
      have places : longer.scale = m.scale + 1 := scale_of_append? fits
      rw [ih tail, places, ← followedBy_of_append? fits]
      simp only [Nat.add_one_ne_zero, false_and, false_iff, not_and, not_le]
      intro unplaced
      have upper := (longer.followedBy_bounds tail).2
      have whole : (longer.coefficient + 1 : ℚ) ≤ coefficientBound := by exact_mod_cast longer.coefficient_lt
      have nonneg := longer.followedBy_nonneg rest
      rw [places, unplaced] at upper
      rw [nearest, Nat.floor_lt (by positivity)]
      rw [coefficientBound_cast] at whole ⊢
      norm_num at upper ⊢
      linarith
    · split
      · rename_i low
        simp only [reduceCtorEq, false_iff, not_and, not_le]
        intro unplaced
        have same := nearest_followedBy m digits
        rw [unplaced, if_pos low] at same
        rw [same]
        exact m.coefficient_lt
      · rename_i high
        rw [raise?_eq_none_iff]
        refine and_congr_right fun unplaced => ?_
        have same := nearest_followedBy m digits
        rw [unplaced, if_neg high] at same
        rw [same]

end Magnitude
end Verdict
