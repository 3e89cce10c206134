import Verdict.Json.Value

/-!
# How values are spelled

The tokens of a value. Tokens are read as a value exactly if they are the tokens of that value
(`Value.ofTokens?_eq_some_iff`), so a value is spelled by one row of tokens only.
-/
namespace Verdict.Json

mutual

/-- The tokens of a value. -/
def Value.tokens : Value → List Token
  | .null => [.null]
  | .bool value => [.bool value]
  | .number natural => [.number natural]
  | .string text => [.string text]
  | .array items => .beginArray :: [Token.comma].intercalate (itemTokens items) ++ [.endArray]
  | .object members => .beginObject :: [Token.comma].intercalate (memberTokens members) ++ [.endObject]

def itemTokens : List Value → List (List Token)
  | [] => []
  | item :: items => item.tokens :: itemTokens items

def memberTokens : List Member → List (List Token)
  | [] => []
  | (name, value) :: members => (.string name :: .colon :: value.tokens) :: memberTokens members

end

theorem itemTokens_eq_map (items : List Value) : itemTokens items = items.map Value.tokens := by
  induction items with
  | nil => rfl
  | cons item items ih => rw [itemTokens, ih, List.map_cons]

def memberTokensOf (member : Member) : List Token :=
  .string member.1 :: .colon :: member.2.tokens

theorem memberTokens_eq_map (members : List Member) : memberTokens members = members.map memberTokensOf := by
  induction members with
  | nil => rfl
  | cons member members ih => rw [memberTokens, ih, List.map_cons]; rfl

/-! ## What has been read -/

/-- Rows of tokens with a comma behind each. -/
def commaed (rows : List (List Token)) : List Token :=
  rows.flatMap fun row => row ++ [.comma]

theorem commaed_append_last (rows : List (List Token)) (last : List Token) :
    commaed rows ++ last = [Token.comma].intercalate (rows ++ [last]) := by
  induction rows with
  | nil => simp [commaed, List.intercalate]
  | cons row rows ih =>
    have more : rows ++ [last] ≠ [] := by simp
    obtain ⟨second, others, shape⟩ := List.exists_cons_of_ne_nil more
    rw [List.cons_append, shape]
    rw [shape] at ih
    simp only [commaed, List.flatMap_cons, List.append_assoc] at ih ⊢
    simp [ih, List.intercalate]

/-- The tokens read of an array or an object that is still open, up to where a value may come next. -/
def Frame.read : Frame → List Token
  | .array items => .beginArray :: commaed (items.reverse.map Value.tokens)
  | .object members name =>
    .beginObject :: commaed (members.reverse.map memberTokensOf) ++ [.string name, .colon]

def readOpened : List Frame → List Token
  | [] => []
  | frame :: opened => readOpened opened ++ frame.read

def Expected.read : Expected → List Token
  | .start opened => readOpened opened
  | .firstItem opened => readOpened opened ++ [.beginArray]
  | .firstName opened => readOpened opened ++ [.beginObject]
  | .nextName members opened => readOpened opened ++ .beginObject :: commaed (members.reverse.map memberTokensOf)
  | .colon members name opened =>
    readOpened opened ++ .beginObject :: commaed (members.reverse.map memberTokensOf) ++ [.string name]
  | .behind last opened => readOpened opened ++ last.tokens

theorem Expected.read_startValue? {opened : List Frame} {token : Token} {next : Expected}
    (taken : startValue? opened token = some next) : next.read = readOpened opened ++ [token] := by
  cases token <;> simp [startValue?] at taken <;> subst taken <;> simp [Expected.read, Value.tokens]

theorem Expected.read_afterValue? {last : Value} {opened : List Frame} {token : Token} {next : Expected}
    (taken : afterValue? last opened token = some next) :
    next.read = readOpened opened ++ last.tokens ++ [token] := by
  unfold afterValue? at taken
  split at taken
  · obtain rfl := Option.some.inj taken
    simp [Expected.read, readOpened, Frame.read, commaed]
  · obtain rfl := Option.some.inj taken
    simp [Expected.read, readOpened, Frame.read, Value.tokens, itemTokens_eq_map, ← commaed_append_last]
  · obtain rfl := Option.some.inj taken
    simp [Expected.read, readOpened, Frame.read, commaed, memberTokensOf]
  · obtain rfl := Option.some.inj taken
    simp [Expected.read, readOpened, Frame.read, Value.tokens, memberTokens_eq_map, ← commaed_append_last,
      memberTokensOf]
  · simp at taken

theorem Expected.read_step? {expected next : Expected} {token : Token}
    (taken : expected.step? token = some next) : next.read = expected.read ++ [token] := by
  unfold step? at taken
  split at taken
  · exact read_startValue? taken
  · obtain rfl := Option.some.inj taken
    simp [Expected.read, Value.tokens, itemTokens, List.intercalate]
  · rw [read_startValue? taken]
    simp [Expected.read, readOpened, Frame.read, commaed]
  · obtain rfl := Option.some.inj taken
    simp [Expected.read, Value.tokens, memberTokens, List.intercalate]
  · obtain rfl := Option.some.inj taken
    simp [Expected.read, commaed]
  · obtain rfl := Option.some.inj taken
    simp [Expected.read]
  · obtain rfl := Option.some.inj taken
    simp [Expected.read, readOpened, Frame.read]
  · exact read_afterValue? taken
  · simp at taken

theorem Expected.read_foldlM {expected last : Expected} {tokens : List Token}
    (taken : tokens.foldlM step? expected = some last) : last.read = expected.read ++ tokens := by
  induction tokens generalizing expected with
  | nil => simp_all
  | cons token tokens ih =>
    obtain ⟨next, step, rest⟩ := Option.bind_eq_some_iff.mp (by simpa using taken)
    rw [ih rest, read_step? step, List.append_assoc, List.singleton_append]

/-! ## Reading the tokens of a value -/

theorem Value.tokens_eq_cons (value : Value) :
    ∃ first rest, value.tokens = first :: rest ∧ first ≠ .endArray := by
  cases value <;> simp [Value.tokens]

theorem foldlM_firstItem (item : Value) (after : List Token) (opened : List Frame) :
    (item.tokens ++ after).foldlM Expected.step? (.firstItem opened) =
      (item.tokens ++ after).foldlM Expected.step? (.start (.array [] :: opened)) := by
  obtain ⟨first, rest, shape, notEnd⟩ := item.tokens_eq_cons
  rw [shape, List.cons_append, List.foldlM_cons, List.foldlM_cons]
  have same : Expected.step? (.firstItem opened) first = Expected.step? (.start (.array [] :: opened)) first := by
    cases first <;> simp_all [Expected.step?]
  rw [same]

theorem intercalate_cons (separator row : List Token) (rows : List (List Token)) :
    separator.intercalate (row :: rows) = row ++ rows.flatMap fun row => separator ++ row := by
  induction rows generalizing row with
  | nil => simp [List.intercalate]
  | cons next rows ih =>
    have tail := ih next
    simp only [List.intercalate, List.intersperse_cons_cons, List.flatten_cons, List.flatMap_cons,
      List.append_assoc] at tail ⊢
    rw [tail]

mutual

/-- The tokens of a value are read as that value, wherever a value may come. -/
theorem Value.foldlM_tokens (opened : List Frame) :
    ∀ value : Value, value.tokens.foldlM Expected.step? (.start opened) = some (.behind value opened)
  | .null => rfl
  | .bool _ => rfl
  | .number _ => rfl
  | .string _ => rfl
  | .array [] => rfl
  | .array (item :: items) => by
    have first := Value.foldlM_tokens (.array [] :: opened) item
    have rest := foldlM_items opened [] item items
    rw [Value.tokens, itemTokens, intercalate_cons, List.cons_append, List.append_assoc, List.foldlM_cons]
    change (item.tokens ++ _).foldlM Expected.step? (.firstItem opened) = _
    rw [foldlM_firstItem, List.foldlM_append, first]
    exact rest
  | .object [] => rfl
  | .object ((name, value) :: members) => by
    have first := Value.foldlM_tokens (.object [] name :: opened) value
    have rest := foldlM_members opened [] name value members
    rw [Value.tokens, memberTokens, intercalate_cons, List.cons_append, List.append_assoc, List.foldlM_cons]
    change (value.tokens ++ _).foldlM Expected.step? (.start (.object [] name :: opened)) = _
    rw [List.foldlM_append, first]
    exact rest

theorem foldlM_items (opened : List Frame) (read : List Value) (last : Value) :
    ∀ items : List Value,
      ((itemTokens items).flatMap (fun row => [Token.comma] ++ row) ++ [Token.endArray]).foldlM Expected.step?
        (.behind last (.array read :: opened)) = some (.behind (.array (read.reverse ++ last :: items)) opened)
  | [] => by simp [itemTokens, Expected.step?, Expected.afterValue?]
  | item :: items => by
    have first := Value.foldlM_tokens (.array (last :: read) :: opened) item
    have rest := foldlM_items opened (last :: read) item items
    rw [itemTokens, List.flatMap_cons, List.singleton_append, List.cons_append, List.cons_append, List.append_assoc,
      List.foldlM_cons]
    change (item.tokens ++ _).foldlM Expected.step? (.start (.array (last :: read) :: opened)) = _
    rw [List.foldlM_append, first]
    simpa using rest

theorem foldlM_members (opened : List Frame) (read : List Member) (lastName : Option Text) (last : Value) :
    ∀ members : List Member,
      ((memberTokens members).flatMap (fun row => [Token.comma] ++ row) ++ [Token.endObject]).foldlM Expected.step?
        (.behind last (.object read lastName :: opened)) =
          some (.behind (.object (read.reverse ++ (lastName, last) :: members)) opened)
  | [] => by simp [memberTokens, Expected.step?, Expected.afterValue?]
  | (name, value) :: members => by
    have first := Value.foldlM_tokens (.object ((lastName, last) :: read) name :: opened) value
    have rest := foldlM_members opened ((lastName, last) :: read) name value members
    rw [memberTokens, List.flatMap_cons, List.singleton_append, List.cons_append, List.cons_append, List.append_assoc,
      List.foldlM_cons]
    change (value.tokens ++ _).foldlM Expected.step? (.start (.object ((lastName, last) :: read) name :: opened)) = _
    rw [List.foldlM_append, first]
    simpa using rest

end

/-- Tokens are read as a value exactly if they are its tokens. -/
theorem Value.ofTokens?_eq_some_iff {tokens : List Token} {value : Value} :
    Value.ofTokens? tokens = some value ↔ tokens = value.tokens := by
  constructor
  · intro read
    obtain ⟨last, run, done⟩ := Option.bind_eq_some_iff.mp read
    unfold Expected.finished? at done
    split at done
    · obtain rfl := Option.some.inj done
      simpa [Expected.read, readOpened] using (Expected.read_foldlM run).symm
    · simp at done
  · rintro rfl
    simp [Value.ofTokens?, Value.foldlM_tokens, Expected.finished?]

end Verdict.Json
