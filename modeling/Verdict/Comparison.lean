import Verdict.Text.Basic
import Verdict.Unicode.Canonical
import Verdict.Unicode.Lowercase

/-!
# Comparing strings

Three ways to say that two strings are the same. Each brings both strings into a form of its own and asks whether
the forms are equal (`equals_iff`).
-/
namespace Verdict

/-- How string operands are compared. -/
inductive Comparison where
  /-- The same characters. -/
  | ordinal
  /-- The same characters once each one is in lower case. -/
  | caseInsensitive
  /-- Canonically equivalent characters. -/
  | cultureAware
  deriving DecidableEq, Repr

namespace Comparison

/-- The form of a string that is compared. -/
def form : Comparison → Text → Text
  | .ordinal, text => text
  | .caseInsensitive, text => text.flatMap Unicode.lowercase
  | .cultureAware, text => Unicode.nfc text

/-- Whether two strings are the same. -/
def equals (mode : Comparison) (a b : Text) : Bool :=
  mode.form a == mode.form b

theorem equals_iff {mode : Comparison} {a b : Text} : mode.equals a b = true ↔ mode.form a = mode.form b := by
  simp [equals]

theorem equals_comm (mode : Comparison) (a b : Text) : mode.equals a b = mode.equals b a := by
  rw [Bool.eq_iff_iff, equals_iff, equals_iff, eq_comm]

def name : Comparison → String
  | .ordinal => "ordinal"
  | .caseInsensitive => "case-insensitive"
  | .cultureAware => "culture-aware"

def all : List Comparison :=
  [.ordinal, .caseInsensitive, .cultureAware]

theorem mem_all (mode : Comparison) : mode ∈ all := by
  cases mode <;> simp [all]

end Comparison
end Verdict
