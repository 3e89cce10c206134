import Verdict.Text.Basic
import Verdict.Unicode.CombiningClass
import Verdict.Unicode.Hangul
import Verdict.Unicode.Pairs
import Verdict.Unicode.Singletons

/-!
# Canonical composition

Normalization form C, by which two texts are canonically equivalent exactly when their forms are equal. A text is
taken apart (`decompose`), the marks behind each starter are put in the order of their classes (`reorder`), and
starters take up the marks and letters that they compose with (`recompose`). The tables are those of Unicode 14, so a
text of characters that a later version adds may be left as it is.
-/
namespace Verdict.Unicode

/-! ## Taking characters apart -/

/-- The characters that a character is equivalent to, one step further apart. -/
def parts? (code : Nat) : Option (List Nat) :=
  if code < 0x00C0 then none
  else
    match singleton? code with
    | some equivalent => some [equivalent]
    | none =>
      match (Hangul.pair? code).or (pair? code) with
      | some (base, mark) => some [base, mark]
      | none => none

/-- The parts of a character after a number of steps. -/
def partsAfter : (steps : Nat) → Nat → List Nat
  | 0, code => [code]
  | steps + 1, code =>
    match parts? code with
    | some parts => parts.flatMap (partsAfter steps)
    | none => [code]

/-- The number of steps after which nothing comes apart any more: a letter with three accents loses them one by
    one. -/
def fullSteps : Nat := 3

/-- Every character replaced by the parts that do not come apart any more. -/
def decompose (text : Text) : Text :=
  text.flatMap fun c => (partsAfter fullSteps c.toNat).map Char.ofNat

/-! ## The order of marks -/

/-- A character beside its combining class. -/
abbrev Classed := Nat × Char

def classed (c : Char) : Classed :=
  (combiningClass c, c)

/-- Puts a character in front of a text in which the marks are in order: behind the marks of lower classes. -/
def place (c : Classed) : List Classed → List Classed
  | [] => [c]
  | d :: rest => if 0 < d.1 ∧ d.1 < c.1 then d :: place c rest else c :: d :: rest

/-- The marks behind each starter in the order of their classes; marks of one class keep their order. -/
def reorder (text : List Classed) : List Classed :=
  text.foldr place []

/-! ## Composing -/

/-- The character that two adjacent characters compose to. -/
def composite? (base mark : Char) : Option Char :=
  ((Hangul.composite? base.toNat mark.toNat).or (pairComposite? base.toNat mark.toNat)).map Char.ofNat

/-- Whether a character reaches the starter before it across `marks`, the last one first: only past marks of lower
    classes. -/
def reaches (cls : Nat) (marks : List Classed) : Bool :=
  match marks with
  | [] => true
  | (last, _) :: _ => last < cls

/-- The text that begins with a starter: the starter takes up what composes with it and reaches it. The marks that
    it did not take up stand behind it, the last one first. -/
def recomposeAfter (starter : Char) (marks : List Classed) : List Classed → Text
  | [] => starter :: marks.reverse.map Prod.snd
  | c :: rest =>
    match if reaches c.1 marks then composite? starter c.2 else none with
    | some composite => recomposeAfter composite marks rest
    | none =>
      if c.1 = 0 then starter :: marks.reverse.map Prod.snd ++ recomposeAfter c.2 [] rest
      else recomposeAfter starter (c :: marks) rest

/-- The text with every starter composed with what follows it. Marks without a starter are kept. -/
def recompose : List Classed → Text
  | [] => []
  | c :: rest => if c.1 = 0 then recomposeAfter c.2 [] rest else c.2 :: recompose rest

/-- The normalization form C of a text. -/
def nfc (text : Text) : Text :=
  recompose (reorder ((decompose text).map classed))

/-- A character before U+00C0 does not come apart. -/
theorem partsAfter_of_lt {code : Nat} (low : code < 0x00C0) (steps : Nat) : partsAfter steps code = [code] := by
  cases steps with
  | zero => rfl
  | succ steps => rw [partsAfter, parts?, if_pos low]

example : nfc ['e', Char.ofNat 0x0301] = [Char.ofNat 0x00E9] := by decide +kernel
example : nfc [Char.ofNat 0x1100, Char.ofNat 0x1161, Char.ofNat 0x11A8] = [Char.ofNat 0xAC01] := by decide +kernel
example : nfc ['a', Char.ofNat 0x0301, Char.ofNat 0x0323] = [Char.ofNat 0x1EA1, Char.ofNat 0x0301] := by
  decide +kernel

end Verdict.Unicode
