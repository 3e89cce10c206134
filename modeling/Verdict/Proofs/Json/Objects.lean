import Verdict.Proofs.Json.Strings
import Verdict.Proofs.Json.Tokens

/-!
# Reading an object

The text of an object stands for its members (`WrittenObject.ofText?_text`), and every text that is read as an object
whose names say something is such a text (`exists_writtenObject`).
-/
namespace Verdict.Json

variable {text name : Text} {value : Value}

/-! ## Names -/

theorem Spells.writtenToken (spells : Spells text name) :
    WrittenToken ('"' :: text ++ ['"']) (.string (some name)) := by
  obtain ⟨pieces, written, join⟩ := spells_iff.mp spells
  rw [← join]
  exact .string written

theorem WrittenToken.exists_spelling (written : WrittenToken text (.string (some name))) :
    ∃ spelling, text = '"' :: spelling ++ ['"'] ∧ Spells spelling name := by
  generalize string : Token.string (some name) = token at written
  cases written with
  | punctuation known =>
    have mark := mem_of_punctuation? known
    simp [← string] at mark
  | word mem => simp [words, ← string] at mem
  | @string body pieces pieced =>
    exact ⟨body, rfl, spells_iff.mpr ⟨pieces, pieced, (Token.string.inj string).symm⟩⟩
  | number => simp at string

/-! ## Members -/

theorem WrittenMember.written_text (member : WrittenMember) :
    Written member.text (memberTokensOf member.toMember) := by
  have content : Written (member.behind ++ ':' :: member.content) (.colon :: member.value.tokens) :=
    (member.written.marked rfl).spaced member.behind_spaces
  refine Written.spaced (.token member.spells.writtenToken (by simp) content) member.before_spaces

/-- A text that stands for a member is the text of it. -/
theorem exists_writtenMember (written : Written text (memberTokensOf (some name, value))) :
    ∃ member : WrittenMember, member.text = text ∧ member.toMember = (some name, value) := by
  obtain ⟨before, front, rest, rfl, before_spaces, head, tail⟩ := written.of_cons
  obtain ⟨spelling, rfl, spells⟩ := head.exists_spelling
  obtain ⟨behind, content, rfl, behind_spaces, written⟩ := tail.of_marked (c := ':') rfl
  exact ⟨⟨name, value, before, spelling, behind, content, before_spaces, spells, behind_spaces, written⟩, rfl, rfl⟩

/-- The texts of members with commas between them. -/
theorem written_members (members : List WrittenMember) :
    Written ([','].intercalate (members.map WrittenMember.text))
      ([Token.comma].intercalate (members.map fun member => memberTokensOf member.toMember)) := by
  induction members with
  | nil => exact .nil
  | cons member members ih =>
    cases members with
    | nil => simpa [List.intercalate] using member.written_text
    | cons next members =>
      simp only [List.map_cons, List.intercalate_cons_cons, List.append_assoc, List.singleton_append] at ih ⊢
      exact member.written_text.append (ih.marked rfl) (by simp [Text.NoDigitFirst])

theorem exists_writtenMembers {members : List Member} (nonempty : members ≠ [])
    (named : ∀ member ∈ members, member.1.isSome = true)
    (written : Written text ([Token.comma].intercalate (members.map memberTokensOf))) :
    ∃ others : List WrittenMember, [','].intercalate (others.map WrittenMember.text) = text ∧
      others.map WrittenMember.toMember = members := by
  induction members generalizing text with
  | nil => exact absurd rfl nonempty
  | cons member members ih =>
    obtain ⟨_ | name, value⟩ := member
    · exact absurd (named _ List.mem_cons_self) (by simp)
    cases members with
    | nil =>
      have last : Written text (memberTokensOf (some name, value)) := by
        simpa [List.intercalate] using written
      obtain ⟨one, rfl, same⟩ := exists_writtenMember last
      exact ⟨[one], by simp [List.intercalate], by simp [same]⟩
    | cons next members =>
      simp only [List.map_cons, List.intercalate_cons_cons, List.append_assoc, List.singleton_append] at written
      obtain ⟨front, back, rfl, first, rest⟩ := written.of_append_marked (c := ',') rfl
      obtain ⟨one, rfl, same⟩ := exists_writtenMember first
      obtain ⟨others, rfl, shape⟩ := ih (by simp) (fun other mem => named other (List.mem_cons_of_mem _ mem)) rest
      refine ⟨one :: others, ?_, by simp [same, shape]⟩
      cases others with
      | nil => simp at shape
      | cons second others => simp [List.intercalate_cons_cons]

/-! ## Objects -/

theorem WrittenObject.ofText?_text (object : WrittenObject) :
    Value.ofText? object.text = some (.object object.toMembers) := by
  rw [Value.ofText?_eq_some_iff, Value.tokens, memberTokens_eq_map, toMembers, List.map_map]
  have behind : Written object.behind [] := written_nil_iff.mpr object.behind_spaces
  have inside := ((written_members object.members).append (behind.marked (c := '\x7d') rfl)
    (by simp [Text.NoDigitFirst])).spaced object.inside_spaces
  exact (inside.marked (c := '\x7b') rfl).spaced object.before_spaces

theorem exists_writtenObject {members : List Member} (read : Value.ofText? text = some (.object members))
    (named : ∀ member ∈ members, member.1.isSome = true) :
    ∃ object : WrittenObject, object.text = text ∧ object.toMembers = members := by
  rw [Value.ofText?_eq_some_iff, Value.tokens, memberTokens_eq_map] at read
  obtain ⟨before, rest, rfl, before_spaces, rest⟩ := read.of_marked (c := '\x7b') rfl
  obtain ⟨middle, behind, rfl, inner, rest⟩ := rest.of_append_marked (c := '\x7d') rfl
  have behind_spaces := written_nil_iff.mp rest
  by_cases empty : members = []
  · subst empty
    exact ⟨⟨[], before, middle, behind, before_spaces, written_nil_iff.mp inner, behind_spaces⟩, rfl, rfl⟩
  · obtain ⟨others, rfl, rfl⟩ := exists_writtenMembers empty named inner
    exact ⟨⟨others, before, [], behind, before_spaces, isSpaces_nil, behind_spaces⟩, rfl, rfl⟩

end Verdict.Json
