import Verdict.Json.Token

/-!
# Values of JSON

The tokens of a document spell a value. They are read one after the other; the arrays and objects that are still open
are kept in a stack, so values may be nested to any depth.
-/
namespace Verdict.Json

inductive Value where
  | null
  | bool (value : Bool)
  /-- A number, with its value if it is written with digits alone. -/
  | number (natural : Option Nat)
  /-- A string, with what it says if it says something. -/
  | string (text : Option Text)
  | array (items : List Value)
  /-- The members with their names, in the order in which they are written. -/
  | object (members : List (Option Text × Value))

abbrev Member := Option Text × Value

/-- An array or an object that is still open, with what it has so far, the last first. -/
inductive Frame where
  | array (items : List Value)
  /-- An object whose member of this name has no value yet. -/
  | object (members : List Member) (name : Option Text)

/-- What may come next, within the open arrays and objects, the innermost first. -/
inductive Expected where
  /-- A value. -/
  | start (opened : List Frame)
  /-- The first item of an array, or its end. -/
  | firstItem (opened : List Frame)
  /-- The first name in an object, or its end. -/
  | firstName (opened : List Frame)
  /-- One more name in an object. -/
  | nextName (members : List Member) (opened : List Frame)
  /-- The colon behind a name. -/
  | colon (members : List Member) (name : Option Text) (opened : List Frame)
  /-- A comma or an end, behind a value. -/
  | behind (last : Value) (opened : List Frame)

namespace Expected

def startValue? (opened : List Frame) : Token → Option Expected
  | .null => some (.behind .null opened)
  | .bool value => some (.behind (.bool value) opened)
  | .number natural => some (.behind (.number natural) opened)
  | .string text => some (.behind (.string text) opened)
  | .beginArray => some (.firstItem opened)
  | .beginObject => some (.firstName opened)
  | _ => none

def afterValue? (last : Value) : List Frame → Token → Option Expected
  | .array items :: opened, .comma => some (.start (.array (last :: items) :: opened))
  | .array items :: opened, .endArray => some (.behind (.array (last :: items).reverse) opened)
  | .object members name :: opened, .comma => some (.nextName ((name, last) :: members) opened)
  | .object members name :: opened, .endObject => some (.behind (.object ((name, last) :: members).reverse) opened)
  | _, _ => none

def step? (expected : Expected) (token : Token) : Option Expected :=
  match expected, token with
  | .start opened, token => startValue? opened token
  | .firstItem opened, .endArray => some (.behind (.array []) opened)
  | .firstItem opened, token => startValue? (.array [] :: opened) token
  | .firstName opened, .endObject => some (.behind (.object []) opened)
  | .firstName opened, .string text => some (.colon [] text opened)
  | .nextName members opened, .string text => some (.colon members text opened)
  | .colon members name opened, .colon => some (.start (.object members name :: opened))
  | .behind last opened, token => afterValue? last opened token
  | _, _ => none

def finished? : Expected → Option Value
  | .behind last [] => some last
  | _ => none

end Expected

/-- The value that tokens spell, if they spell one and no more. -/
def Value.ofTokens? (tokens : List Token) : Option Value :=
  (tokens.foldlM Expected.step? (.start [])).bind Expected.finished?

/-- The value that a text spells, if it spells one and no more. -/
def Value.ofText? (text : Text) : Option Value :=
  (tokens? text).bind ofTokens?

end Verdict.Json
