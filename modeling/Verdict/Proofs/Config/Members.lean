import Verdict.Config.Json
import Verdict.Proofs.Json.Objects

/-!
# The members of a configuration

Which configuration an object stands for depends on its members with the two known names alone, not on their order and
not on what else is there. Without one of them the configuration is as if that one was not set; a second one with the
same name is refused.
-/
namespace Verdict.Config

open Json

/-- The configuration as if the member with a name was not set. -/
def without (config : Config) (name : Text) : Config :=
  if name = comparisonName then { config with comparison := ({} : Config).comparison }
  else if name = maxDepthName then { config with maxDepth := ({} : Config).maxDepth }
  else config

/-! ## One field -/

section

variable {α : Type} {read? : Value → Option α} {unset : α} {name : Text} {members others front back : List Member}
  {member : Member}

/-- No more than one member has the name of a field that is read. -/
theorem length_le_of_field? {value : α} (read : field? read? unset name members = some value) :
    (members.filter fun member => member.1 = some name).length ≤ 1 := by
  unfold field? at read
  split at read
  · simp [*]
  · simp [*]
  · simp at read

theorem field?_perm (perm : members.Perm others) :
    field? read? unset name members = field? read? unset name others := by
  have kept := perm.filter fun member => decide (member.1 = some name)
  unfold field?
  generalize members.filter (fun member => decide (member.1 = some name)) = here at kept
  generalize others.filter (fun member => decide (member.1 = some name)) = there at kept
  match here with
  | [] => rw [List.nil_perm.mp kept]
  | [first] => rw [List.singleton_perm.mp kept]
  | first :: second :: more =>
    have size := kept.length_eq
    match there with
    | [] | [_] => simp at size
    | _ :: _ :: _ => rfl

theorem field?_of_ne (other : member.1 ≠ some name) :
    field? read? unset name (front ++ member :: back) = field? read? unset name (front ++ back) := by
  simp [field?, List.filter_append, other]

/-- Where a field is read off a member, no other member has its name. -/
theorem ne_of_field? {value : α} (here : member.1 = some name)
    (read : field? read? unset name (front ++ member :: back) = some value) :
    ∀ other ∈ front ++ back, other.1 ≠ some name := by
  intro other mem same
  have few := length_le_of_field? read
  have again : 0 < ((front ++ back).filter fun member => member.1 = some name).length :=
    List.length_pos_of_mem (List.mem_filter.mpr ⟨mem, by simpa using same⟩)
  simp only [List.filter_append, List.filter_cons, here, decide_true, if_true, List.length_append,
    List.length_cons] at few again
  omega

theorem field?_removed {value : α} (here : member.1 = some name)
    (read : field? read? unset name (front ++ member :: back) = some value) :
    field? read? unset name (front ++ back) = some unset := by
  have others := ne_of_field? here read
  have unnamed : (front ++ back).filter (fun member => member.1 = some name) = [] :=
    List.filter_eq_nil_iff.mpr fun other mem => by simpa using others other mem
  rw [field?, unnamed]

theorem field?_repeated (here : member.1 = some name) (again : ∃ other ∈ front ++ back, other.1 = some name) :
    field? read? unset name (front ++ member :: back) = none := by
  rw [Option.eq_none_iff_forall_ne_some]
  intro value read
  obtain ⟨other, mem, same⟩ := again
  exact ne_of_field? here read other mem same

end

/-! ## All members -/

variable {config : Config} {members others front back : List Member} {member : Member}

theorem ofMembers?_eq_some_iff :
    ofMembers? members = some config ↔
      (∀ member ∈ members, member.1.isSome = true) ∧
        field? comparisonOf? ({} : Config).comparison comparisonName members = some config.comparison ∧
          field? maxDepthOf? ({} : Config).maxDepth maxDepthName members = some config.maxDepth := by
  unfold ofMembers?
  split
  · rename_i named
    simp only [Option.bind_eq_bind, Option.bind_eq_some_iff, Option.pure_def, Option.some.injEq]
    constructor
    · rintro ⟨comparison, first, maxDepth, second, rfl⟩
      exact ⟨named, first, second⟩
    · rintro ⟨_, first, second⟩
      exact ⟨config.comparison, first, config.maxDepth, second, rfl⟩
  · rename_i unnamed
    exact iff_of_false (by simp) fun read => unnamed read.1

theorem ofMembers?_perm (perm : members.Perm others) (read : ofMembers? members = some config) :
    ofMembers? others = some config := by
  rw [ofMembers?_eq_some_iff] at read ⊢
  obtain ⟨named, first, second⟩ := read
  exact ⟨fun member mem => named member (perm.mem_iff.mpr mem), (field?_perm perm).symm.trans first,
    (field?_perm perm).symm.trans second⟩

theorem ne_of_name_ne {name known : Text} (here : member.1 = some name) (differ : name ≠ known) :
    member.1 ≠ some known :=
  fun same => differ (Option.some.inj (here.symm.trans same))

/-- A member with another name may be added anywhere. -/
theorem ofMembers?_added {name : Text} (here : member.1 = some name) (first : name ≠ comparisonName)
    (second : name ≠ maxDepthName) (read : ofMembers? (front ++ back) = some config) :
    ofMembers? (front ++ member :: back) = some config := by
  rw [ofMembers?_eq_some_iff] at read ⊢
  obtain ⟨named, comparison, maxDepth⟩ := read
  refine ⟨?_, (field?_of_ne (ne_of_name_ne here first)).trans comparison,
    (field?_of_ne (ne_of_name_ne here second)).trans maxDepth⟩
  simp only [List.forall_mem_append, List.forall_mem_cons] at named ⊢
  exact ⟨named.1, by simp [here], named.2⟩

/-- Without a member, what it sets is as if it was not set. -/
theorem ofMembers?_removed {name : Text} (here : member.1 = some name)
    (read : ofMembers? (front ++ member :: back) = some config) :
    ofMembers? (front ++ back) = some (config.without name) := by
  rw [ofMembers?_eq_some_iff] at read ⊢
  obtain ⟨named, comparison, maxDepth⟩ := read
  refine ⟨?_, ?_, ?_⟩
  · simp only [List.forall_mem_append, List.forall_mem_cons] at named ⊢
    exact ⟨named.1, named.2.2⟩
  · by_cases same : name = comparisonName
    · rw [without, if_pos same]
      exact field?_removed (same ▸ here) comparison
    · rw [← field?_of_ne (ne_of_name_ne here same), comparison, without, if_neg same]
      split <;> rfl
  · by_cases same : name = maxDepthName
    · have differ : name ≠ comparisonName := by rw [same]; decide
      rw [without, if_neg differ, if_pos same]
      exact field?_removed (same ▸ here) maxDepth
    · rw [← field?_of_ne (ne_of_name_ne here same), maxDepth, without, if_neg same]
      split <;> rfl

theorem ofMembers?_repeated {name : Text} (here : member.1 = some name)
    (known : name = comparisonName ∨ name = maxDepthName) (again : ∃ other ∈ front ++ back, other.1 = some name) :
    ofMembers? (front ++ member :: back) = none := by
  rw [Option.eq_none_iff_forall_ne_some]
  intro config read
  obtain ⟨_, comparison, maxDepth⟩ := ofMembers?_eq_some_iff.mp read
  rcases known with rfl | rfl
  · simp [field?_repeated here again] at comparison
  · simp [field?_repeated here again] at maxDepth

/-! ## Documents -/

theorem ofJson?_text (object : WrittenObject) : ofJson? object.text = ofMembers? object.toMembers := by
  rw [ofJson?, object.ofText?_text]
  rfl

/-- A document that stands for an object is the text of its members; only the two known ones matter. White space may
    be changed, the members may be put in any order, others may be added anywhere, and the names may be written with
    escapes, and the configuration stays as it is. Without a member, what it sets is as if it was not set. With a second
    member of a known name, wherever it is added, there is no configuration. -/
theorem ofJson?_of_object {document : Text} {config : Config} {members : List Member}
    (object : Value.ofText? document = some (.object members)) (accepted : ofJson? document = some config) :
    (∀ other, Respaced document other → ofJson? other = some config) ∧
      (∃ object : WrittenObject, object.text = document) ∧
      ∀ object : WrittenObject, object.text = document →
        (∀ others, others.Perm object.members → ofJson? { object with members := others }.text = some config) ∧
        (∀ front (added : WrittenMember) back, object.members = front ++ back →
          added.name ≠ comparisonName → added.name ≠ maxDepthName →
            ofJson? { object with members := front ++ added :: back }.text = some config) ∧
        (∀ front (member : WrittenMember) back spelling (spells : Spells spelling member.name),
          object.members = front ++ member :: back →
            ofJson? { object with
              members := front ++ { member with spelling := spelling, spells := spells } :: back }.text =
                some config) ∧
        (∀ front member back, object.members = front ++ member :: back →
          ofJson? { object with members := front ++ back }.text = some (config.without member.name)) ∧
        ∀ front (added : WrittenMember) back, object.members = front ++ back →
          added.name = comparisonName ∨ added.name = maxDepthName →
            (∃ member ∈ object.members, member.name = added.name) →
              ofJson? { object with members := front ++ added :: back }.text = none := by
  have read : ofMembers? members = some config := by
    rw [ofJson?, object] at accepted
    exact accepted
  refine ⟨fun other respaced => ?_, ?_, ?_⟩
  · rw [ofJson?, ← respaced.ofText?_eq]
    exact accepted
  · obtain ⟨written, same, _⟩ := exists_writtenObject object (ofMembers?_eq_some_iff.mp read).1
    exact ⟨written, same⟩
  · rintro written rfl
    have read : ofMembers? written.toMembers = some config := (ofJson?_text written).symm.trans accepted
    simp only [ofJson?_text, WrittenObject.toMembers] at read ⊢
    refine ⟨?_, ?_, ?_, ?_, ?_⟩
    · exact fun others perm => ofMembers?_perm (perm.symm.map _) read
    · intro front added back whole first second
      rw [whole, List.map_append] at read
      rw [List.map_append, List.map_cons]
      exact ofMembers?_added rfl first second read
    · intro front member back spelling spells whole
      rw [whole] at read
      simpa [WrittenMember.toMember] using read
    · intro front member back whole
      rw [whole, List.map_append, List.map_cons] at read
      rw [List.map_append]
      exact ofMembers?_removed rfl read
    · rintro front added back whole known ⟨member, mem, same⟩
      rw [whole] at mem
      rw [List.map_append, List.map_cons]
      refine ofMembers?_repeated rfl known ⟨member.toMember, ?_, congrArg some same⟩
      rw [← List.map_append]
      exact List.mem_map_of_mem mem

/-- The limit is the only member. Its name is written again with numeric escapes alone: in place of the name that is
    there, and as the name of a second member. -/
theorem ofJson?_of_object_escaped :
    let escaped := "\\u006d\\u0061\\u0078\\u005f\\u0064\\u0065\\u0070\\u0074\\u0068"
    ofJson? "\x7b\"max_depth\":7\x7d".toList = some ⟨.ordinal, 7⟩ ∧
      ofJson? ("\x7b\"" ++ escaped ++ "\":7\x7d").toList = some ⟨.ordinal, 7⟩ ∧
        ofJson? "\x7b\x7d".toList = some ⟨.ordinal, 256⟩ ∧
          ofJson? ("\x7b\"max_depth\":7,\"" ++ escaped ++ "\":7\x7d").toList = none := by
  have spells : Spells (maxDepthName.flatMap numericEscapes) maxDepthName := spells_numericEscapes maxDepthName
  let member : WrittenMember := ⟨maxDepthName, .number (some 7), [], maxDepthName, [], ['7'], isSpaces_nil,
    spells_self (by simp [maxDepthName]), isSpaces_nil, tokens?_eq_some_iff.mp (by decide +kernel)⟩
  let object : WrittenObject := ⟨[member], [], [], [], isSpaces_nil, isSpaces_nil, isSpaces_nil⟩
  have accepted : ofJson? object.text = some ⟨.ordinal, 7⟩ := by decide +kernel
  obtain ⟨_, _, edited⟩ := ofJson?_of_object object.ofText?_text accepted
  obtain ⟨_, _, respelled, removed, repeated⟩ := edited object rfl
  have twice := repeated [member] { member with spelling := _, spells := spells } [] rfl (.inr rfl)
    ⟨member, List.mem_cons_self, rfl⟩
  exact ⟨accepted, respelled [] member [] _ spells rfl, removed [] member [] rfl, twice⟩

end Verdict.Config
