import Verdict.Text.Basic

/-!
# Strings in JSON

A string is written between quotes, with characters as they are or as escapes. A numeric escape names a 16-bit unit,
and two units in a row can name one character between them. Reading finds the end of a string (`scan?`); what the
string says is another question (`Piece.join?`), which has no answer where a unit is half of a character.
-/
namespace Verdict.Json

inductive Piece where
  | char (c : Char)
  /-- A 16-bit unit, by its number. -/
  | unit (code : Nat)
  deriving DecidableEq, Repr

/-- The character that an escape with one letter stands for. -/
def escaped? : Char → Option Char
  | '"' => some '"'
  | '\\' => some '\\'
  | '/' => some '/'
  | 'b' => some '\x08'
  | 'f' => some '\x0C'
  | 'n' => some '\n'
  | 'r' => some '\r'
  | 't' => some '\t'
  | _ => none

def hexDigit? (c : Char) : Option Nat :=
  if c.isDigit then some (c.toNat - '0'.toNat)
  else if 'a' ≤ c ∧ c ≤ 'f' then some (c.toNat - 'a'.toNat + 10)
  else if 'A' ≤ c ∧ c ≤ 'F' then some (c.toNat - 'A'.toNat + 10)
  else none

def unit? (a b c d : Char) : Option Nat := do
  let a ← hexDigit? a
  let b ← hexDigit? b
  let c ← hexDigit? c
  let d ← hexDigit? d
  return ((a * 16 + b) * 16 + c) * 16 + d

def withPiece (piece : Piece) (scanned : List Piece × Text) : List Piece × Text :=
  (piece :: scanned.1, scanned.2)

/-- The parts of the string that ends at the next quote, and the text behind that quote. Control characters have no
    place in a string. -/
def scan? : Text → Option (List Piece × Text)
  | [] => none
  | '"' :: rest => some ([], rest)
  | '\\' :: 'u' :: a :: b :: c :: d :: rest =>
    match unit? a b c d with
    | some code => (scan? rest).map (withPiece (.unit code))
    | none => none
  | '\\' :: e :: rest =>
    match escaped? e with
    | some c => (scan? rest).map (withPiece (.char c))
    | none => none
  | c :: rest => if c = '\\' ∨ c.toNat < 0x20 then none else (scan? rest).map (withPiece (.char c))

theorem withPiece_eq_some {piece : Piece} {scanned : Option (List Piece × Text)} {pieces : List Piece} {rest : Text}
    (found : scanned.map (withPiece piece) = some (pieces, rest)) : ∃ more, scanned = some (more, rest) := by
  obtain ⟨⟨more, after⟩, here, same⟩ := Option.map_eq_some_iff.mp found
  obtain ⟨_, rfl⟩ := Prod.mk.inj same
  exact ⟨more, here⟩

theorem length_lt_of_scan? {text rest : Text} {pieces : List Piece} (scanned : scan? text = some (pieces, rest)) :
    rest.length < text.length := by
  fun_induction scan? text generalizing pieces with
  | case1 => simp at scanned
  | case2 => simp_all
  | case3 _ _ _ _ tail _ _ ih =>
    obtain ⟨more, found⟩ := withPiece_eq_some scanned
    have := ih found
    simp only [List.length_cons]; omega
  | case4 => simp at scanned
  | case5 _ tail _ _ _ ih =>
    obtain ⟨more, found⟩ := withPiece_eq_some scanned
    have := ih found
    simp only [List.length_cons]; omega
  | case6 => simp at scanned
  | case7 => simp at scanned
  | case8 _ tail _ _ _ _ ih =>
    obtain ⟨more, found⟩ := withPiece_eq_some scanned
    have := ih found
    simp only [List.length_cons]; omega

/-! ## What a string says -/

/-- The first half of a character in two units. -/
def IsHigh (code : Nat) : Prop :=
  0xD800 ≤ code ∧ code < 0xDC00

/-- The second half of a character in two units. -/
def IsLow (code : Nat) : Prop :=
  0xDC00 ≤ code ∧ code < 0xE000

instance (code : Nat) : Decidable (IsHigh code) :=
  inferInstanceAs (Decidable (0xD800 ≤ code ∧ code < 0xDC00))

instance (code : Nat) : Decidable (IsLow code) :=
  inferInstanceAs (Decidable (0xDC00 ≤ code ∧ code < 0xE000))

def paired (high low : Nat) : Char :=
  Char.ofNat (0x10000 + (high - 0xD800) * 0x400 + (low - 0xDC00))

/-- The text that the parts of a string say, if no unit is half of a character. -/
def Piece.join? : List Piece → Option Text
  | [] => some []
  | .char c :: rest => (join? rest).map (c :: ·)
  | .unit high :: .unit low :: rest =>
    if IsHigh high then
      if IsLow low then (join? rest).map (paired high low :: ·) else none
    else if IsLow high then none
    else (join? (.unit low :: rest)).map (Char.ofNat high :: ·)
  | .unit code :: rest =>
    if IsHigh code ∨ IsLow code then none else (join? rest).map (Char.ofNat code :: ·)

end Verdict.Json
