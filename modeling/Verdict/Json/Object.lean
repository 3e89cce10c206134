import Verdict.Json.Grammar
import Verdict.Json.Spelling

/-!
# Objects as they are written

An object is written as its members, one after the other with commas between them, and a member as its name between
quotes, a colon and its value. White space may stand between any two of these. The characters of a name are written as
they are or as escapes, so a name may be written in many ways.
-/
namespace Verdict.Json

/-- White space, or nothing. -/
def IsSpaces (text : Text) : Prop :=
  ∀ c ∈ text, IsSpace c

theorem isSpaces_nil : IsSpaces [] :=
  List.forall_mem_nil IsSpace

/-! ## Names -/

/-- A text that stands for one character of a name. -/
inductive SpellsChar : Text → Char → Prop where
  | plain {c : Char} : c ≠ '"' → c ≠ '\\' → 0x20 ≤ c.toNat → SpellsChar [c] c
  | escape {e c : Char} : escaped? e = some c → SpellsChar ['\\', e] c
  /-- Four digits of a number that is no half of a character. -/
  | numeric {a b c d : Char} {code : Nat} :
    unit? a b c d = some code → ¬ IsHigh code → ¬ IsLow code → SpellsChar ['\\', 'u', a, b, c, d] (Char.ofNat code)
  /-- Both halves of a character. -/
  | halves {a b c d e f g h : Char} {high low : Nat} :
    unit? a b c d = some high → unit? e f g h = some low → IsHigh high → IsLow low →
      SpellsChar ['\\', 'u', a, b, c, d, '\\', 'u', e, f, g, h] (paired high low)

/-- A text between quotes that stands for a name. -/
inductive Spells : Text → Text → Prop where
  | nil : Spells [] []
  | cons {front rest : Text} {c : Char} {name : Text} :
    SpellsChar front c → Spells rest name → Spells (front ++ rest) (c :: name)

/-! ## Members and objects -/

/-- A member, and a text that stands for it. -/
structure WrittenMember where
  name : Text
  value : Value
  /-- What stands before the name. -/
  before : Text
  /-- The name as it is written between the quotes. -/
  spelling : Text
  /-- What stands between the name and the colon. -/
  behind : Text
  /-- The value as it is written, with what stands around it. -/
  content : Text
  before_spaces : IsSpaces before
  spells : Spells spelling name
  behind_spaces : IsSpaces behind
  written : Written content value.tokens

namespace WrittenMember

def text (member : WrittenMember) : Text :=
  member.before ++ ('"' :: member.spelling ++ ['"'] ++ (member.behind ++ ':' :: member.content))

def toMember (member : WrittenMember) : Member :=
  (some member.name, member.value)

end WrittenMember

/-- An object, and a text that stands for it. -/
structure WrittenObject where
  members : List WrittenMember
  /-- What stands before the object. -/
  before : Text
  /-- What stands at the front of the object. -/
  inside : Text
  /-- What stands behind the object. -/
  behind : Text
  before_spaces : IsSpaces before
  inside_spaces : IsSpaces inside
  behind_spaces : IsSpaces behind

namespace WrittenObject

def text (object : WrittenObject) : Text :=
  object.before ++ '\x7b' ::
    (object.inside ++ ([','].intercalate (object.members.map WrittenMember.text) ++ '\x7d' :: object.behind))

def toMembers (object : WrittenObject) : List Member :=
  object.members.map WrittenMember.toMember

end WrittenObject

/-! ## White space -/

/-- The same tokens, written alike, with other white space between them. No digit stands behind a number in either
    text. -/
inductive Respaced : Text → Text → Prop where
  | nil : Respaced [] []
  | left {c : Char} {a b : Text} : IsSpace c → Respaced a b → Respaced (c :: a) b
  | right {c : Char} {a b : Text} : IsSpace c → Respaced a b → Respaced a (c :: b)
  | token {front a b : Text} {token : Token} :
    WrittenToken front token → (∀ value, token = .number value → Text.NoDigitFirst a ∧ Text.NoDigitFirst b) →
      Respaced a b → Respaced (front ++ a) (front ++ b)

end Verdict.Json
