import Verdict.Json.Object

/-!
# What a string says

A string says a text exactly if it is written character by character for that text (`spells_iff`). Every character can
be written as numeric escapes, so every text can (`spells_numericEscapes`).
-/
namespace Verdict.Json

/-! ## One character -/

theorem join?_unit {code : Nat} (high : ¬ IsHigh code) (low : ¬ IsLow code) (rest : List Piece) :
    Piece.join? (.unit code :: rest) = (Piece.join? rest).map (Char.ofNat code :: ·) := by
  cases rest with
  | nil => simp [Piece.join?, high, low]
  | cons piece rest =>
    cases piece with
    | char c => simp [Piece.join?, high, low]
    | unit other => simp [Piece.join?, high, low]

theorem join?_halves {high low : Nat} (first : IsHigh high) (second : IsLow low) (rest : List Piece) :
    Piece.join? (.unit high :: .unit low :: rest) = (Piece.join? rest).map (paired high low :: ·) := by
  simp [Piece.join?, first, second]

theorem WrittenPieces.append {a b : Text} {first second : List Piece} (front : WrittenPieces a first)
    (back : WrittenPieces b second) : WrittenPieces (a ++ b) (first ++ second) := by
  induction front with
  | nil => exact back
  | cons piece _ ih =>
    rw [List.append_assoc, List.cons_append]
    exact .cons piece ih

/-- The pieces of one character. -/
theorem SpellsChar.exists_pieces {text : Text} {c : Char} (spells : SpellsChar text c) :
    ∃ pieces, WrittenPieces text pieces ∧
      ∀ rest, Piece.join? (pieces ++ rest) = (Piece.join? rest).map (c :: ·) := by
  cases spells with
  | plain quote escape control =>
    exact ⟨[.char c], .cons (.char quote escape control) .nil, fun rest => by simp [Piece.join?]⟩
  | escape letter =>
    exact ⟨[.char c], .cons (.escape letter) .nil, fun rest => by simp [Piece.join?]⟩
  | numeric digits high low =>
    exact ⟨_, .cons (.unit digits) .nil, join?_unit high low⟩
  | halves digits digits' high low =>
    exact ⟨_, .cons (.unit digits) (.cons (.unit digits') .nil), join?_halves high low⟩

/-! ## All characters -/

theorem Spells.exists_pieces {text name : Text} (spells : Spells text name) :
    ∃ pieces, WrittenPieces text pieces ∧ Piece.join? pieces = some name := by
  induction spells with
  | nil => exact ⟨[], .nil, rfl⟩
  | cons head _ ih =>
    obtain ⟨first, front, join⟩ := head.exists_pieces
    obtain ⟨more, back, whole⟩ := ih
    refine ⟨first ++ more, front.append back, ?_⟩
    rw [join, whole]
    rfl

theorem WrittenPiece.spellsChar {text : Text} {c : Char} (written : WrittenPiece text (.char c)) :
    SpellsChar text c := by
  cases written with
  | char quote escape control => exact .plain quote escape control
  | escape letter => exact .escape letter

theorem WrittenPiece.spellsChar_unit {text : Text} {code : Nat} (written : WrittenPiece text (.unit code))
    (high : ¬ IsHigh code) (low : ¬ IsLow code) : SpellsChar text (Char.ofNat code) := by
  cases written with
  | unit digits => exact .numeric digits high low

theorem spells_of_pieces {pieces : List Piece} {text name : Text} (written : WrittenPieces text pieces)
    (join : Piece.join? pieces = some name) : Spells text name := by
  fun_induction Piece.join? pieces generalizing text name with
  | case1 =>
    cases written
    obtain rfl := Option.some.inj join
    exact .nil
  | case2 c rest ih =>
    obtain ⟨more, whole, rfl⟩ := Option.map_eq_some_iff.mp join
    cases written with
    | cons piece back => exact .cons piece.spellsChar (ih back whole)
  | case3 high low rest first second ih =>
    obtain ⟨more, whole, rfl⟩ := Option.map_eq_some_iff.mp join
    cases written with
    | cons one back =>
      cases back with
      | cons two back =>
        cases one with
        | unit digits =>
          cases two with
          | unit digits' =>
            rw [← List.append_assoc]
            exact .cons (.halves digits digits' first second) (ih back whole)
  | case4 => simp at join
  | case5 => simp at join
  | case6 high low rest notHigh notLow ih =>
    obtain ⟨more, whole, rfl⟩ := Option.map_eq_some_iff.mp join
    cases written with
    | cons piece back => exact .cons (piece.spellsChar_unit notHigh notLow) (ih back whole)
  | case7 => simp at join
  | case8 code rest _ half ih =>
    obtain ⟨more, whole, rfl⟩ := Option.map_eq_some_iff.mp join
    cases written with
    | cons piece back =>
      obtain ⟨notHigh, notLow⟩ := not_or.mp half
      exact .cons (piece.spellsChar_unit notHigh notLow) (ih back whole)

theorem spells_iff {text name : Text} :
    Spells text name ↔ ∃ pieces, WrittenPieces text pieces ∧ Piece.join? pieces = some name :=
  ⟨Spells.exists_pieces, fun ⟨_, written, join⟩ => spells_of_pieces written join⟩

/-- A text of characters that need no escapes is written as it is. -/
theorem spells_self {text : Text} (plain : ∀ c ∈ text, c ≠ '"' ∧ c ≠ '\\' ∧ 0x20 ≤ c.toNat) :
    Spells text text := by
  induction text with
  | nil => exact .nil
  | cons c text ih =>
    obtain ⟨quote, escape, control⟩ := plain c List.mem_cons_self
    exact .cons (.plain quote escape control) (ih fun d mem => plain d (List.mem_cons_of_mem c mem))

/-! ## Numeric escapes -/

/-- The four digits of a number in base sixteen. -/
def hexDigits (code : Nat) : Text :=
  [Nat.digitChar (code / 4096), Nat.digitChar (code / 256 % 16), Nat.digitChar (code / 16 % 16),
    Nat.digitChar (code % 16)]

/-- A character as numeric escapes: one, or one for each half of the character. -/
def numericEscapes (c : Char) : Text :=
  if c.toNat < 0x10000 then '\\' :: 'u' :: hexDigits c.toNat
  else
    let above := c.toNat - 0x10000
    '\\' :: 'u' :: hexDigits (0xD800 + above / 0x400) ++ '\\' :: 'u' :: hexDigits (0xDC00 + above % 0x400)

theorem hexDigit?_digitChar : ∀ n < 16, hexDigit? (Nat.digitChar n) = some n := by
  decide

theorem unit?_hexDigits {code : Nat} (small : code < 0x10000) :
    unit? (Nat.digitChar (code / 4096)) (Nat.digitChar (code / 256 % 16)) (Nat.digitChar (code / 16 % 16))
      (Nat.digitChar (code % 16)) = some code := by
  have whole : ((code / 4096 * 16 + code / 256 % 16) * 16 + code / 16 % 16) * 16 + code % 16 = code := by omega
  have first := hexDigit?_digitChar (code / 4096) (by omega)
  have others : ∀ n, hexDigit? (Nat.digitChar (n % 16)) = some (n % 16) :=
    fun n => hexDigit?_digitChar _ (Nat.mod_lt n (by decide))
  simp [unit?, first, others, whole]

theorem toNat_valid (c : Char) : c.toNat < 0xD800 ∨ 0xDFFF < c.toNat ∧ c.toNat < 0x110000 :=
  c.valid

/-- No character is half of one. -/
theorem not_half (c : Char) : ¬ IsHigh c.toNat ∧ ¬ IsLow c.toNat := by
  have valid := toNat_valid c
  unfold IsHigh IsLow
  omega

theorem spellsChar_numericEscapes (c : Char) : SpellsChar (numericEscapes c) c := by
  unfold numericEscapes
  split
  · rename_i small
    obtain ⟨high, low⟩ := not_half c
    have whole := SpellsChar.numeric (unit?_hexDigits small) high low
    rwa [Char.ofNat_toNat] at whole
  · rename_i large
    have valid := toNat_valid c
    have first : IsHigh (0xD800 + (c.toNat - 0x10000) / 0x400) := by unfold IsHigh; omega
    have second : IsLow (0xDC00 + (c.toNat - 0x10000) % 0x400) := by unfold IsLow; omega
    have whole := SpellsChar.halves (unit?_hexDigits (Nat.lt_of_lt_of_le first.2 (by decide)))
      (unit?_hexDigits (Nat.lt_of_lt_of_le second.2 (by decide))) first second
    have same : paired (0xD800 + (c.toNat - 0x10000) / 0x400) (0xDC00 + (c.toNat - 0x10000) % 0x400) = c := by
      have code : 0x10000 + (0xD800 + (c.toNat - 0x10000) / 0x400 - 0xD800) * 0x400 +
          (0xDC00 + (c.toNat - 0x10000) % 0x400 - 0xDC00) = c.toNat := by omega
      rw [paired, code, Char.ofNat_toNat]
    rwa [same] at whole

theorem spells_numericEscapes (name : Text) : Spells (name.flatMap numericEscapes) name := by
  induction name with
  | nil => exact .nil
  | cons c name ih => exact .cons (spellsChar_numericEscapes c) ih

end Verdict.Json
