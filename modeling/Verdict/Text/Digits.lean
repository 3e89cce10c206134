import Verdict.Text.Basic

/-!
# Digits

The digits of ASCII at the front of a text. A text falls into its first digits and the rest in one way only
(`scanDigits_eq_iff`).
-/
namespace Verdict.Text

/-- A text of digits only. -/
def IsDigits (text : Text) : Prop :=
  ∀ c ∈ text, c.isDigit = true

instance (text : Text) : Decidable (IsDigits text) :=
  decidable_of_iff (text.all Char.isDigit = true) List.all_eq_true

/-- No digit stands at the front of a text. -/
def NoDigitFirst (text : Text) : Prop :=
  ∀ c ∈ text.head?, c.isDigit = false

/-- The digits at the front of a text, and the text behind them. -/
def scanDigits (text : Text) : Text × Text :=
  (text.takeWhile Char.isDigit, text.dropWhile Char.isDigit)

theorem scanDigits_append (text : Text) : (scanDigits text).1 ++ (scanDigits text).2 = text :=
  List.takeWhile_append_dropWhile

theorem isDigits_scanDigits (text : Text) : IsDigits (scanDigits text).1 :=
  fun c mem => List.all_eq_true.mp List.all_takeWhile c mem

theorem noDigitFirst_scanDigits (text : Text) : NoDigitFirst (scanDigits text).2 := by
  intro c first
  have stop := List.head?_dropWhile_not Char.isDigit text
  rw [scanDigits, Option.mem_def] at first
  simpa [first] using stop

theorem scanDigits_of_noDigitFirst {rest : Text} (stop : NoDigitFirst rest) : scanDigits rest = ([], rest) := by
  cases rest with
  | nil => rfl
  | cons c rest =>
    have other : ¬ c.isDigit = true := by simp [stop c rfl]
    rw [scanDigits, List.takeWhile_cons_of_neg other, List.dropWhile_cons_of_neg other]

/-- The digits end where no digit follows. -/
theorem scanDigits_eq_iff {text digits rest : Text} :
    scanDigits text = (digits, rest) ↔ IsDigits digits ∧ NoDigitFirst rest ∧ text = digits ++ rest := by
  constructor
  · intro scanned
    have whole := scanDigits_append text
    have first := isDigits_scanDigits text
    have stop := noDigitFirst_scanDigits text
    rw [scanned] at whole first stop
    exact ⟨first, stop, whole.symm⟩
  · rintro ⟨first, stop, rfl⟩
    have stopped := Prod.mk.inj (scanDigits_of_noDigitFirst stop)
    rw [scanDigits, List.takeWhile_append_of_pos first, List.dropWhile_append_of_pos first, stopped.1, stopped.2,
      List.append_nil]

/-! ## Digits of a number -/

theorem isDigits_toDigits (n : Nat) : IsDigits (Nat.toDigits 10 n) :=
  fun _ mem => Nat.isDigit_of_mem_toDigits (by decide) (by decide) mem

/-- Only zero is written with a zero in front. -/
theorem head?_toDigits {n : Nat} (positive : 0 < n) : (Nat.toDigits 10 n).head? ≠ some '0' := by
  induction n using Nat.strongRecOn with
  | ind n ih =>
    rw [Nat.toDigits_eq_if (by decide)]
    split
    · rename_i small
      have digits : ∀ n < 10, 0 < n → Nat.digitChar n ≠ '0' := by decide
      simpa using digits n small positive
    · rename_i large
      have first := ih (n / 10) (by omega) (by omega)
      obtain ⟨c, rest, shape⟩ := List.exists_cons_of_ne_nil (Nat.toDigits_ne_nil (n := n / 10) (b := 10))
      rw [shape] at first ⊢
      exact first

end Verdict.Text
