import Verdict.Config.Basic
import Verdict.Json.Value

/-!
# Configurations in JSON

A configuration is written as an object with two members. Read, it may also be an array with the same values in
the same order. What is missing is as if nothing was set; members with other names do not matter, but every name has
to say something, and none of the two members may stand there twice. The comparison is given by its word, written as
a string. Read, the word may also be the name of the only member of an object, with `null` as its value.
-/
namespace Verdict

/-- The word for a comparison. -/
def Comparison.key : Comparison → Text
  | .ordinal => ['o', 'r', 'd', 'i', 'n', 'a', 'l']
  | .caseInsensitive => ['c', 'a', 's', 'e', '_', 'i', 'n', 's', 'e', 'n', 's', 'i', 't', 'i', 'v', 'e']
  | .cultureAware => ['c', 'u', 'l', 't', 'u', 'r', 'e', '_', 'a', 'w', 'a', 'r', 'e']

/-- The comparison with a word. -/
def Comparison.ofKey? (key : Text) : Option Comparison :=
  Comparison.all.find? fun mode => mode.key = key

theorem Comparison.ofKey?_key (mode : Comparison) : ofKey? mode.key = some mode := by
  cases mode <;> decide

namespace Config

/-- The name of the member for the comparison. -/
def comparisonName : Text :=
  ['s', 't', 'r', 'i', 'n', 'g', '_', 'c', 'o', 'm', 'p', 'a', 'r', 'i', 's', 'o', 'n']

/-- The name of the member for the limit. -/
def maxDepthName : Text :=
  ['m', 'a', 'x', '_', 'd', 'e', 'p', 't', 'h']

/-! ## Writing -/

/-- A text between quotes. -/
def quoted (text : Text) : Text :=
  '"' :: text ++ ['"']

/-- The configuration as a document without white space. -/
def toJson (config : Config) : Text :=
  '\x7b' :: quoted comparisonName ++ ':' :: quoted config.comparison.key ++
    ',' :: quoted maxDepthName ++ ':' :: Nat.toDigits 10 config.maxDepth.toNat ++ ['\x7d']

/-! ## Reading -/

/-- The word that a value gives: a string, or the name of the only member of an object, if its value is `null`. -/
def wordOf? : Json.Value → Option Text
  | .string word => word
  | .object [(word, .null)] => word
  | _ => none

/-- The comparison that a value names. -/
def comparisonOf? (value : Json.Value) : Option Comparison :=
  (wordOf? value).bind Comparison.ofKey?

/-- The limit that a value is: a number written with digits alone, of at most 64 bits. -/
def maxDepthOf? : Json.Value → Option UInt64
  | .number (some natural) => if natural < UInt64.size then some (UInt64.ofNat natural) else none
  | _ => none

/-- The configuration with these values in order. -/
def ofItems? : List Json.Value → Option Config
  | [] => some {}
  | [comparison] => do
    let comparison ← comparisonOf? comparison
    return { comparison }
  | [comparison, maxDepth] => do
    let comparison ← comparisonOf? comparison
    let maxDepth ← maxDepthOf? maxDepth
    return { comparison, maxDepth }
  | _ => none

/-- What the one member of a name is read as; without such a member, what it is if nothing is set. -/
def field? {α : Type} (read? : Json.Value → Option α) (unset : α) (name : Text) (members : List Json.Member) :
    Option α :=
  match members.filter fun member => member.1 = some name with
  | [] => some unset
  | [member] => read? member.2
  | _ => none

/-- The configuration with these members. -/
def ofMembers? (members : List Json.Member) : Option Config :=
  if ∀ member ∈ members, member.1.isSome = true then do
    let comparison ← field? comparisonOf? ({} : Config).comparison comparisonName members
    let maxDepth ← field? maxDepthOf? ({} : Config).maxDepth maxDepthName members
    return { comparison, maxDepth }
  else none

/-- The configuration that a value stands for. -/
def ofValue? : Json.Value → Option Config
  | .array items => ofItems? items
  | .object members => ofMembers? members
  | _ => none

/-- The configuration that a document stands for. -/
def ofJson? (document : Text) : Option Config :=
  (Json.Value.ofText? document).bind ofValue?

end Config
end Verdict
