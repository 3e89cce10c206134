import Verdict.Json.Object

/-!
# Rows of tokens

The texts of two rows of tokens stand for both rows together when one is put behind the other (`Written.append`), and a
text that stands for two rows falls into a text for each (`Written.of_append`). White space makes no difference to what
is read (`Respaced.ofText?_eq`).
-/
namespace Verdict.Json

variable {text a b : Text} {token : Token} {tokens s t : List Token} {c : Char}

/-! ## One row behind the other -/

theorem Written.append (first : Written a s) (second : Written b t) (stop : Text.NoDigitFirst b) :
    Written (a ++ b) (s ++ t) := by
  induction first with
  | nil => exact second
  | space isSpace _ ih => exact .space isSpace ih
  | @token front rest token tokens head ends _ ih =>
    rw [List.append_assoc]
    refine .token head (fun value number => ?_) ih
    cases rest with
    | nil => exact stop
    | cons d rest => exact ends value number

theorem Written.of_append (written : Written text (s ++ t)) :
    ∃ a b, text = a ++ b ∧ Written a s ∧ Written b t := by
  generalize whole : s ++ t = tokens at written
  induction written generalizing s with
  | nil =>
    obtain ⟨rfl, rfl⟩ := List.append_eq_nil_iff.mp whole
    exact ⟨[], [], rfl, .nil, .nil⟩
  | space isSpace _ ih =>
    obtain ⟨a, b, rfl, first, second⟩ := ih whole
    exact ⟨_ :: a, b, rfl, .space isSpace first, second⟩
  | @token front rest token tokens head ends tail ih =>
    cases s with
    | nil =>
      obtain rfl : t = token :: tokens := whole
      exact ⟨[], front ++ rest, rfl, .nil, .token head ends tail⟩
    | cons first s =>
      obtain ⟨rfl, more⟩ := List.cons.inj whole
      obtain ⟨a, b, rfl, one, two⟩ := ih more
      refine ⟨front ++ a, b, (List.append_assoc _ _ _).symm, .token head (fun value number => ?_) one, two⟩
      cases a with
      | nil => simp [Text.NoDigitFirst]
      | cons d a => exact ends value number

/-! ## One token -/

theorem written_nil_iff : Written text [] ↔ IsSpaces text := by
  constructor
  · intro written
    generalize empty : ([] : List Token) = tokens at written
    induction written with
    | nil => exact fun c mem => absurd mem (by simp)
    | space isSpace _ ih =>
      intro d mem
      rcases List.mem_cons.mp mem with rfl | later
      · exact isSpace
      · exact ih empty d later
    | token => simp at empty
  · intro spaces
    induction text with
    | nil => exact .nil
    | cons c text ih =>
      exact .space (spaces c List.mem_cons_self) (ih fun d mem => spaces d (List.mem_cons_of_mem c mem))

theorem Written.spaced (written : Written b tokens) (spaces : IsSpaces a) : Written (a ++ b) tokens := by
  induction a with
  | nil => exact written
  | cons c a ih =>
    exact .space (spaces c List.mem_cons_self) (ih fun d mem => spaces d (List.mem_cons_of_mem c mem))

theorem IsSpaces.noDigitFirst (spaces : IsSpaces a) : Text.NoDigitFirst a := by
  intro c first
  rcases spaces c (List.mem_of_head? first) with rfl | rfl | rfl | rfl <;> rfl

theorem Written.spaced_behind (written : Written a tokens) (spaces : IsSpaces b) : Written (a ++ b) tokens := by
  have whole := written.append (written_nil_iff.mpr spaces) spaces.noDigitFirst
  rwa [List.append_nil] at whole

theorem Written.of_cons (written : Written text (token :: tokens)) :
    ∃ spaces front rest, text = spaces ++ (front ++ rest) ∧ IsSpaces spaces ∧ WrittenToken front token ∧
      Written rest tokens := by
  generalize whole : token :: tokens = row at written
  induction written with
  | nil => simp at whole
  | @space c _ _ isSpace _ ih =>
    obtain ⟨spaces, front, rest, rfl, blank, head, tail⟩ := ih whole
    refine ⟨c :: spaces, front, rest, rfl, fun d mem => ?_, head, tail⟩
    rcases List.mem_cons.mp mem with rfl | later
    · exact isSpace
    · exact blank d later
  | token head _ tail _ =>
    obtain ⟨rfl, rfl⟩ := List.cons.inj whole
    exact ⟨[], _, _, rfl, fun d mem => absurd mem (by simp), head, tail⟩

/-! ## Punctuation -/

theorem punctuation?_inj {d : Char} (first : punctuation? c = some token) (second : punctuation? d = some token) :
    c = d := by
  unfold punctuation? at first second
  split at first <;> cases first <;> split at second <;> simp_all

theorem mem_of_punctuation? (known : punctuation? c = some token) :
    token ∈ [.beginArray, .endArray, .beginObject, .endObject, .comma, .colon] := by
  unfold punctuation? at known
  split at known <;> cases known <;> simp

theorem WrittenToken.eq_of_punctuation (written : WrittenToken text token) (known : punctuation? c = some token) :
    text = [c] := by
  have mark := mem_of_punctuation? known
  cases written with
  | punctuation other => rw [punctuation?_inj other known]
  | word mem =>
    simp only [words, List.mem_cons, Prod.mk.injEq, List.not_mem_nil, or_false] at mem
    rcases mem with ⟨_, rfl⟩ | ⟨_, rfl⟩ | ⟨_, rfl⟩ <;> simp at mark
  | string => simp at mark
  | number => simp at mark

theorem not_number_of_punctuation (known : punctuation? c = some token) (value : Option Nat) :
    token ≠ .number value := by
  rintro rfl
  have mark := mem_of_punctuation? known
  simp at mark

theorem Written.marked (written : Written b tokens) (known : punctuation? c = some token) :
    Written (c :: b) (token :: tokens) :=
  .token (.punctuation known) (fun value number => absurd number (not_number_of_punctuation known value)) written

theorem Written.of_marked (written : Written text (token :: tokens)) (known : punctuation? c = some token) :
    ∃ spaces rest, text = spaces ++ c :: rest ∧ IsSpaces spaces ∧ Written rest tokens := by
  obtain ⟨spaces, front, rest, rfl, blank, head, tail⟩ := written.of_cons
  obtain rfl := head.eq_of_punctuation known
  exact ⟨spaces, rest, rfl, blank, tail⟩

/-- A text that stands for two rows with a mark between them falls apart at that mark. -/
theorem Written.of_append_marked (written : Written text (s ++ token :: t)) (known : punctuation? c = some token) :
    ∃ a b, text = a ++ c :: b ∧ Written a s ∧ Written b t := by
  obtain ⟨a, rest, rfl, first, rest_written⟩ := written.of_append
  obtain ⟨spaces, b, rfl, blank, second⟩ := rest_written.of_marked known
  exact ⟨a ++ spaces, b, (List.append_assoc _ _ _).symm, first.spaced_behind blank, second⟩

/-! ## White space -/

theorem Respaced.exists_tokens (respaced : Respaced a b) : ∃ tokens, Written a tokens ∧ Written b tokens := by
  induction respaced with
  | nil => exact ⟨[], .nil, .nil⟩
  | left isSpace _ ih =>
    obtain ⟨tokens, first, second⟩ := ih
    exact ⟨tokens, .space isSpace first, second⟩
  | right isSpace _ ih =>
    obtain ⟨tokens, first, second⟩ := ih
    exact ⟨tokens, first, .space isSpace second⟩
  | @token front a b token head ends _ ih =>
    obtain ⟨tokens, first, second⟩ := ih
    exact ⟨token :: tokens, .token head (fun value number => (ends value number).1) first,
      .token head (fun value number => (ends value number).2) second⟩

theorem Respaced.ofText?_eq (respaced : Respaced a b) : Value.ofText? a = Value.ofText? b := by
  obtain ⟨tokens, first, second⟩ := respaced.exists_tokens
  rw [Value.ofText?, Value.ofText?, tokens?_eq_some_iff.mpr first, tokens?_eq_some_iff.mpr second]

/-! ## Values -/

/-- A text is read as the value whose tokens it is written for. -/
theorem Value.ofText?_eq_some_iff {value : Value} : Value.ofText? text = some value ↔ Written text value.tokens := by
  rw [Value.ofText?, Option.bind_eq_some_iff]
  constructor
  · rintro ⟨tokens, read, spelled⟩
    rw [← Value.ofTokens?_eq_some_iff.mp spelled]
    exact tokens?_eq_some_iff.mp read
  · intro written
    exact ⟨value.tokens, tokens?_eq_some_iff.mpr written, Value.ofTokens?_eq_some_iff.mpr rfl⟩

end Verdict.Json
