import Verdict.Proofs.Config.Members

/-!
# Writing a configuration and reading it

What is written for a configuration is an object with two members and no white space (`text_toObject`), so what it is
read as is read off its members. The limit is written with digits alone and without needless zeros, and no limit is too
large to be read.
-/
namespace Verdict.Config

open Json

/-! ## What is written -/

/-- A text of characters that need no escapes, between quotes, is a string that says the text. -/
theorem written_quoted {text : Text} (spells : Spells text text) :
    Written (quoted text) (Value.string (some text)).tokens := by
  have string := Written.token spells.writtenToken (by simp) Written.nil
  rwa [List.append_nil] at string

theorem written_toDigits (n : Nat) : Written (Nat.toDigits 10 n) (Value.number (some n)).tokens := by
  have integer : IsInteger (Nat.toDigits 10 n) := by
    refine ⟨Nat.toDigits_ne_nil, fun zero => ?_⟩
    rcases Nat.eq_zero_or_pos n with rfl | positive
    · rfl
    · exact absurd zero (Text.head?_toDigits positive)
  have number := WrittenNumber.mk (.inl rfl) integer (Text.isDigits_toDigits n) .none .none
  simp only [naturalOf, List.append_nil, List.nil_append, and_self, if_true, Nat.ofDigitChars_ten_toDigits] at number
  have written := Written.token (.number number) (fun _ _ => by simp [Text.NoDigitFirst]) Written.nil
  rwa [List.append_nil] at written

theorem spells_key (mode : Comparison) : Spells mode.key mode.key :=
  spells_self (by cases mode <;> simp [Comparison.key])

/-- The object that is written for a configuration. -/
def toObject (config : Config) : WrittenObject where
  members :=
    [{  name := comparisonName
        value := .string (some config.comparison.key)
        before := []
        spelling := comparisonName
        behind := []
        content := quoted config.comparison.key
        before_spaces := isSpaces_nil
        spells := spells_self (by simp [comparisonName])
        behind_spaces := isSpaces_nil
        written := written_quoted (spells_key config.comparison) },
      { name := maxDepthName
        value := .number (some config.maxDepth.toNat)
        before := []
        spelling := maxDepthName
        behind := []
        content := Nat.toDigits 10 config.maxDepth.toNat
        before_spaces := isSpaces_nil
        spells := spells_self (by simp [maxDepthName])
        behind_spaces := isSpaces_nil
        written := written_toDigits config.maxDepth.toNat }]
  before := []
  inside := []
  behind := []
  before_spaces := isSpaces_nil
  inside_spaces := isSpaces_nil
  behind_spaces := isSpaces_nil

theorem text_toObject (config : Config) : config.toObject.text = config.toJson := by
  simp [toObject, WrittenObject.text, WrittenMember.text, toJson, quoted, List.intercalate]

/-! ## What is read -/

theorem comparisonOf?_key (mode : Comparison) : comparisonOf? (.string (some mode.key)) = some mode :=
  Comparison.ofKey?_key mode

theorem maxDepthOf?_toNat (limit : UInt64) : maxDepthOf? (.number (some limit.toNat)) = some limit := by
  rw [maxDepthOf?, if_pos limit.toNat_lt_size, UInt64.ofNat_toNat]

theorem ofMembers?_toObject (config : Config) : ofMembers? config.toObject.toMembers = some config := by
  rw [ofMembers?_eq_some_iff]
  refine ⟨by simp [toObject, WrittenObject.toMembers, WrittenMember.toMember], ?_, ?_⟩
  · exact comparisonOf?_key config.comparison
  · exact maxDepthOf?_toNat config.maxDepth

/-- What is written for a configuration is read as that configuration. So what any document is read as is written in a
    way that is read as the same, and is written in the same way again. -/
theorem ofJson?_toJson :
    (∀ config : Config, ofJson? config.toJson = some config) ∧
      ∀ document config, ofJson? document = some config →
        ofJson? config.toJson = some config ∧ (ofJson? config.toJson).map toJson = some config.toJson := by
  have round : ∀ config : Config, ofJson? config.toJson = some config := by
    intro config
    rw [← text_toObject, ofJson?_text, ofMembers?_toObject]
  refine ⟨round, fun document config _ => ⟨round config, ?_⟩⟩
  rw [round config]
  rfl

/-- An array with white space, and the largest limit there is. -/
theorem ofJson?_toJson_array :
    let document := "[ \"culture_aware\",\n18446744073709551615 ]".toList
    let config : Config := ⟨.cultureAware, 0xffffffffffffffff⟩
    ofJson? document = some config ∧ ofJson? config.toJson = some config := by
  intro document config
  have read : ofJson? document = some config := by decide +kernel
  exact ⟨read, (ofJson?_toJson.2 document config read).1⟩

end Verdict.Config
