import Verdict.Json.NumberLiteral
import Verdict.Json.StringLiteral

/-!
# Tokens of JSON

A document is a row of tokens with white space between them. How white space and escapes are used in a document is
not to be seen in its tokens.
-/
namespace Verdict.Json

inductive Token where
  | beginArray
  | endArray
  | beginObject
  | endObject
  | comma
  | colon
  | null
  | bool (value : Bool)
  /-- A number, with its value if it is written with digits alone. -/
  | number (natural : Option Nat)
  /-- A string, with what it says if it says something. -/
  | string (text : Option Text)
  deriving DecidableEq, Repr

/-- The four characters that may stand between tokens. -/
def IsSpace (c : Char) : Prop :=
  c = ' ' ∨ c = '\t' ∨ c = '\n' ∨ c = '\r'

instance (c : Char) : Decidable (IsSpace c) :=
  inferInstanceAs (Decidable (c = ' ' ∨ c = '\t' ∨ c = '\n' ∨ c = '\r'))

def words : List (Text × Token) :=
  [(['n', 'u', 'l', 'l'], .null), (['t', 'r', 'u', 'e'], .bool true), (['f', 'a', 'l', 's', 'e'], .bool false)]

def punctuation? : Char → Option Token
  | '[' => some .beginArray
  | ']' => some .endArray
  | '\x7b' => some .beginObject
  | '\x7d' => some .endObject
  | ',' => some .comma
  | ':' => some .colon
  | _ => none

def scanWord? (text : Text) : Option (Token × Text) :=
  words.findSome? fun (word, token) => (word.isPrefixOf? text).map fun rest => (token, rest)

/-- The token that begins with a character, and the text behind it. -/
def scanToken? (c : Char) (rest : Text) : Option (Token × Text) :=
  match punctuation? c with
  | some token => some (token, rest)
  | none =>
    if c = '"' then (scan? rest).map fun (pieces, after) => (.string (Piece.join? pieces), after)
    else
      match scanWord? (c :: rest) with
      | some found => some found
      | none => (scanNumber? (c :: rest)).map fun (natural, after) => (.number natural, after)

theorem length_lt_of_scanWord? {text rest : Text} {token : Token} (scanned : scanWord? text = some (token, rest)) :
    rest.length < text.length := by
  obtain ⟨⟨word, other⟩, mem, found⟩ := List.exists_of_findSome?_eq_some scanned
  obtain ⟨after, behind, same⟩ := Option.map_eq_some_iff.mp found
  obtain ⟨_, rfl⟩ := Prod.mk.inj same
  rw [Text.isPrefixOf?_eq_some_iff.mp behind, List.length_append]
  have positive : 0 < word.length := by
    simp only [words, List.mem_cons, Prod.mk.injEq, List.not_mem_nil, or_false] at mem
    rcases mem with ⟨rfl, _⟩ | ⟨rfl, _⟩ | ⟨rfl, _⟩ <;> simp
  omega

theorem length_lt_of_scanToken? {c : Char} {rest after : Text} {token : Token}
    (scanned : scanToken? c rest = some (token, after)) : after.length < (c :: rest).length := by
  unfold scanToken? at scanned
  split at scanned
  · obtain ⟨_, rfl⟩ := Prod.mk.inj (Option.some.inj scanned)
    simp
  · split at scanned
    · obtain ⟨⟨pieces, last⟩, found, same⟩ := Option.map_eq_some_iff.mp scanned
      obtain ⟨_, rfl⟩ := Prod.mk.inj same
      exact Nat.lt_succ_of_lt (length_lt_of_scan? found)
    · split at scanned
      · rename_i found
        rw [scanned] at found
        exact length_lt_of_scanWord? found
      · obtain ⟨⟨natural, last⟩, found, same⟩ := Option.map_eq_some_iff.mp scanned
        obtain ⟨_, rfl⟩ := Prod.mk.inj same
        exact length_lt_of_scanNumber? found

/-- The tokens of a text, if it consists of tokens. -/
def tokens? (text : Text) : Option (List Token) :=
  match text with
  | [] => some []
  | c :: rest =>
    if IsSpace c then tokens? rest
    else
      match _found : scanToken? c rest with
      | some (token, after) => (tokens? after).map (token :: ·)
      | none => none
termination_by text.length
decreasing_by
  · simp
  · exact length_lt_of_scanToken? _found

end Verdict.Json
