import Verdict.Json.Token

/-!
# How tokens are written

The texts that stand for a token, and the texts that stand for a row of tokens: the tokens one after the other, with
white space anywhere between them. Two numbers do not touch. Reading a text finds the tokens that the text is written
for (`tokens?_eq_some_iff`).
-/
namespace Verdict.Json

/-! ## Strings -/

/-- A text that stands for one piece of a string. -/
inductive WrittenPiece : Text → Piece → Prop where
  | char {c : Char} : c ≠ '"' → c ≠ '\\' → 0x20 ≤ c.toNat → WrittenPiece [c] (.char c)
  | escape {e c : Char} : escaped? e = some c → WrittenPiece ['\\', e] (.char c)
  | unit {a b c d : Char} {code : Nat} :
    unit? a b c d = some code → WrittenPiece ['\\', 'u', a, b, c, d] (.unit code)

/-- A text that stands for the pieces of a string. -/
inductive WrittenPieces : Text → List Piece → Prop where
  | nil : WrittenPieces [] []
  | cons {front rest : Text} {piece : Piece} {pieces : List Piece} :
    WrittenPiece front piece → WrittenPieces rest pieces → WrittenPieces (front ++ rest) (piece :: pieces)

theorem scan?_append_piece {front : Text} {piece : Piece} (written : WrittenPiece front piece) (rest : Text) :
    scan? (front ++ rest) = (scan? rest).map (withPiece piece) := by
  cases written with
  | char quote escape control =>
    rw [List.singleton_append, scan?.eq_def]
    split
    · simp_all
    · simp_all
    · simp_all
    · simp_all
    · rename_i here
      obtain ⟨rfl, rfl⟩ := List.cons.inj here
      rw [if_neg]
      rintro (same | low)
      · exact escape same
      · omega
  | @escape e c letter =>
    have notUnit : e ≠ 'u' := by rintro rfl; simp [escaped?] at letter
    simp only [List.cons_append, List.nil_append]
    rw [scan?.eq_def]
    split
    · simp_all
    · simp_all
    · simp_all
    · simp_all
    · rename_i never here
      obtain ⟨same, tail⟩ := List.cons.inj here
      exact absurd tail.symm (never e rest same.symm)
  | unit digits =>
    simp [scan?, digits]

/-- The string that ends at the next quote is read as the pieces that it is written for. -/
theorem scan?_eq_some_iff {text rest : Text} {pieces : List Piece} :
    scan? text = some (pieces, rest) ↔ ∃ front, WrittenPieces front pieces ∧ text = front ++ '"' :: rest := by
  constructor
  · intro scanned
    fun_induction scan? text generalizing pieces with
    | case1 => simp at scanned
    | case2 tail =>
      obtain ⟨rfl, rfl⟩ := Prod.mk.inj (Option.some.inj scanned)
      exact ⟨[], .nil, rfl⟩
    | case3 a b c d tail code digits ih =>
      obtain ⟨⟨more, after⟩, found, same⟩ := Option.map_eq_some_iff.mp scanned
      obtain ⟨rfl, rfl⟩ := Prod.mk.inj same
      obtain ⟨front, written, rfl⟩ := ih found
      exact ⟨_, .cons (.unit digits) written, rfl⟩
    | case4 => simp at scanned
    | case5 e tail _ c letter ih =>
      obtain ⟨⟨more, after⟩, found, same⟩ := Option.map_eq_some_iff.mp scanned
      obtain ⟨rfl, rfl⟩ := Prod.mk.inj same
      obtain ⟨front, written, rfl⟩ := ih found
      exact ⟨_, .cons (.escape letter) written, rfl⟩
    | case6 => simp at scanned
    | case7 => simp at scanned
    | case8 c tail quote _ _ plain ih =>
      obtain ⟨⟨more, after⟩, found, same⟩ := Option.map_eq_some_iff.mp scanned
      obtain ⟨rfl, rfl⟩ := Prod.mk.inj same
      obtain ⟨front, written, rfl⟩ := ih found
      refine ⟨_, .cons (.char ?_ ?_ ?_) written, rfl⟩
      · intro same; exact quote same
      · intro same; exact plain (.inl same)
      · exact Nat.le_of_not_lt fun low => plain (.inr low)
  · rintro ⟨front, written, rfl⟩
    induction written with
    | nil => rfl
    | cons piece _ ih =>
      rw [List.append_assoc, scan?_append_piece piece, ih]
      rfl

/-! ## Numbers -/

inductive WrittenFraction : Text → Prop where
  | none : WrittenFraction []
  | digits {digits : Text} : digits ≠ [] → Text.IsDigits digits → WrittenFraction ('.' :: digits)

inductive WrittenExponent : Text → Prop where
  | none : WrittenExponent []
  | digits {mark : Char} {sign digits : Text} :
    IsExponentMark mark → sign = [] ∨ sign = ['+'] ∨ sign = ['-'] → digits ≠ [] → Text.IsDigits digits →
      WrittenExponent (mark :: sign ++ digits)

/-- A text that stands for a number, with its value if there are digits alone. -/
inductive WrittenNumber : Text → Option Nat → Prop where
  | mk {sign digits fraction exponent : Text} :
    sign = [] ∨ sign = ['-'] → IsInteger digits → Text.IsDigits digits → WrittenFraction fraction →
      WrittenExponent exponent →
      WrittenNumber (sign ++ (digits ++ (fraction ++ exponent))) (naturalOf sign digits fraction exponent)

/-- Nothing at the front of a text belongs to a number before it. -/
def EndsNumber (text : Text) : Prop :=
  ∀ c ∈ text.head?, c.isDigit = false ∧ c ≠ '.' ∧ ¬ IsExponentMark c

theorem EndsNumber.noDigitFirst {text : Text} (ends : EndsNumber text) : Text.NoDigitFirst text :=
  fun c first => (ends c first).1

theorem written_of_scanFraction? {text fraction rest : Text} (stop : Text.NoDigitFirst text)
    (scanned : scanFraction? text = some (fraction, rest)) : WrittenFraction fraction ∧ Text.NoDigitFirst rest := by
  unfold scanFraction? at scanned
  split at scanned
  · rename_i tail
    dsimp only at scanned
    split at scanned
    · simp at scanned
    · rename_i nonempty
      obtain ⟨rfl, rfl⟩ := Prod.mk.inj (Option.some.inj scanned)
      exact ⟨.digits nonempty (Text.isDigits_scanDigits tail), Text.noDigitFirst_scanDigits tail⟩
  · obtain ⟨rfl, rfl⟩ := Prod.mk.inj (Option.some.inj scanned)
    exact ⟨.none, stop⟩

theorem scanSign_fst (text : Text) :
    (scanSign text).1 = [] ∨ (scanSign text).1 = ['+'] ∨ (scanSign text).1 = ['-'] := by
  unfold scanSign; split <;> simp

theorem written_of_scanExponent? {text exponent rest : Text} (stop : Text.NoDigitFirst text)
    (scanned : scanExponent? text = some (exponent, rest)) : WrittenExponent exponent ∧ Text.NoDigitFirst rest := by
  unfold scanExponent? at scanned
  split at scanned
  · obtain ⟨rfl, rfl⟩ := Prod.mk.inj (Option.some.inj scanned)
    exact ⟨.none, stop⟩
  · rename_i c tail
    split at scanned
    · rename_i mark
      dsimp only at scanned
      split at scanned
      · simp at scanned
      · rename_i nonempty
        obtain ⟨rfl, rfl⟩ := Prod.mk.inj (Option.some.inj scanned)
        exact ⟨.digits mark (scanSign_fst tail) nonempty (Text.isDigits_scanDigits _), Text.noDigitFirst_scanDigits _⟩
    · obtain ⟨rfl, rfl⟩ := Prod.mk.inj (Option.some.inj scanned)
      exact ⟨.none, stop⟩

theorem written_of_scanNumber? {text rest : Text} {value : Option Nat}
    (scanned : scanNumber? text = some (value, rest)) :
    ∃ front, WrittenNumber front value ∧ text = front ++ rest ∧ Text.NoDigitFirst rest := by
  obtain ⟨integer, fraction, exponent, between, first, second, rfl⟩ := scanNumber?_eq_some_iff.mp scanned
  have stop := Text.noDigitFirst_scanDigits (scanMinus text).2
  obtain ⟨writtenFraction, stop⟩ := written_of_scanFraction? stop first
  obtain ⟨writtenExponent, stop⟩ := written_of_scanExponent? stop second
  have isSign : (scanMinus text).1 = [] ∨ (scanMinus text).1 = ['-'] := by
    unfold scanMinus; split <;> simp
  refine ⟨_, .mk isSign integer (Text.isDigits_scanDigits _) writtenFraction writtenExponent, ?_, stop⟩
  rw [List.append_assoc, List.append_assoc, List.append_assoc, ← eq_append_of_scanExponent? second,
    ← eq_append_of_scanFraction? first, Text.scanDigits_append, scanMinus_append]

theorem scanFraction?_append {fraction rest : Text} (written : WrittenFraction fraction)
    (stop : Text.NoDigitFirst rest) (noPoint : fraction = [] → ∀ c ∈ rest.head?, c ≠ '.') :
    scanFraction? (fraction ++ rest) = some (fraction, rest) := by
  cases written with
  | none =>
    rw [List.nil_append, scanFraction?.eq_def]
    split
    · exact absurd rfl (noPoint rfl '.' rfl)
    · rfl
  | digits nonempty digits =>
    have scanned := Text.scanDigits_eq_iff.mpr ⟨digits, stop, rfl⟩
    simp [scanFraction?, scanned, nonempty]

theorem scanExponent?_append {exponent rest : Text} (written : WrittenExponent exponent)
    (stop : Text.NoDigitFirst rest) (noMark : exponent = [] → ∀ c ∈ rest.head?, ¬ IsExponentMark c) :
    scanExponent? (exponent ++ rest) = some (exponent, rest) := by
  cases written with
  | none =>
    cases rest with
    | nil => rfl
    | cons c rest => rw [List.nil_append, scanExponent?, if_neg (noMark rfl c rfl)]
  | @digits mark sign digits isMark isSign nonempty isDigits =>
    have scanned := Text.scanDigits_eq_iff.mpr ⟨isDigits, stop, rfl⟩
    have signed : scanSign (sign ++ (digits ++ rest)) = (sign, digits ++ rest) := by
      rcases isSign with rfl | rfl | rfl
      · obtain ⟨d, ds, rfl⟩ := List.exists_cons_of_ne_nil nonempty
        have digit := isDigits d (by simp)
        rw [List.nil_append, List.cons_append, scanSign.eq_def]
        split <;> simp_all
      · rfl
      · rfl
    rw [List.append_assoc, List.cons_append, scanExponent?, if_pos isMark]
    simp [signed, scanned, nonempty]

theorem scanNumber?_append {front rest : Text} {value : Option Nat} (written : WrittenNumber front value)
    (ends : EndsNumber rest) : scanNumber? (front ++ rest) = some (value, rest) := by
  obtain ⟨isSign, integer, isDigits, writtenFraction, writtenExponent⟩ := written
  rename_i sign digits fraction exponent
  have stop := ends.noDigitFirst
  have third := scanExponent?_append writtenExponent stop fun _ c first => (ends c first).2.2
  have behindFraction : Text.NoDigitFirst (exponent ++ rest) := by
    cases writtenExponent with
    | none => exact stop
    | digits mark => rcases mark with rfl | rfl <;> simp [Text.NoDigitFirst]
  have second := scanFraction?_append writtenFraction behindFraction fun _ => by
    cases writtenExponent with
    | none => exact fun c first => (ends c first).2.1
    | digits mark => rcases mark with rfl | rfl <;> simp
  have behindDigits : Text.NoDigitFirst (fraction ++ (exponent ++ rest)) := by
    cases writtenFraction with
    | none => exact behindFraction
    | digits => simp [Text.NoDigitFirst]
  have first := Text.scanDigits_eq_iff.mpr ⟨isDigits, behindDigits, rfl⟩
  have minus : scanMinus (sign ++ (digits ++ (fraction ++ (exponent ++ rest)))) =
      (sign, digits ++ (fraction ++ (exponent ++ rest))) := by
    rcases isSign with rfl | rfl
    · obtain ⟨d, ds, rfl⟩ := List.exists_cons_of_ne_nil integer.1
      have digit := isDigits d (by simp)
      rw [List.nil_append, List.cons_append, scanMinus.eq_def]
      split <;> simp_all
    · rfl
  rw [List.append_assoc, List.append_assoc, List.append_assoc, scanNumber?_eq_some_iff, minus, first]
  exact ⟨integer, fraction, exponent, exponent ++ rest, second, third, rfl⟩

/-! ## Tokens -/

/-- A text that stands for one token. -/
inductive WrittenToken : Text → Token → Prop where
  | punctuation {c : Char} {token : Token} : punctuation? c = some token → WrittenToken [c] token
  | word {word : Text} {token : Token} : (word, token) ∈ words → WrittenToken word token
  | string {body : Text} {pieces : List Piece} :
    WrittenPieces body pieces → WrittenToken ('"' :: body ++ ['"']) (.string (Piece.join? pieces))
  | number {text : Text} {value : Option Nat} : WrittenNumber text value → WrittenToken text (.number value)

/-- A text that stands for a row of tokens. No digit stands behind a number. -/
inductive Written : Text → List Token → Prop where
  | nil : Written [] []
  | space {c : Char} {rest : Text} {tokens : List Token} :
    IsSpace c → Written rest tokens → Written (c :: rest) tokens
  | token {front rest : Text} {token : Token} {tokens : List Token} :
    WrittenToken front token → (∀ value, token = .number value → Text.NoDigitFirst rest) →
      Written rest tokens → Written (front ++ rest) (token :: tokens)

theorem WrittenNumber.exists_cons {text : Text} {value : Option Nat} (written : WrittenNumber text value) :
    ∃ c rest, text = c :: rest ∧ (c.isDigit = true ∨ c = '-') := by
  obtain ⟨isSign, integer, isDigits, _, _⟩ := written
  rename_i sign digits fraction exponent
  rcases isSign with rfl | rfl
  · obtain ⟨d, ds, rfl⟩ := List.exists_cons_of_ne_nil integer.1
    exact ⟨d, _, rfl, .inl (isDigits d (by simp))⟩
  · exact ⟨'-', _, rfl, .inr rfl⟩

theorem WrittenToken.exists_cons {text : Text} {token : Token} (written : WrittenToken text token) :
    ∃ c rest, text = c :: rest ∧ ¬ IsSpace c ∧ c ≠ '.' ∧ ¬ IsExponentMark c := by
  cases written with
  | @punctuation c _ known =>
    refine ⟨c, [], rfl, ?_, ?_, ?_⟩
    · rintro (rfl | rfl | rfl | rfl) <;> simp [punctuation?] at known
    · rintro rfl; simp [punctuation?] at known
    · rintro (rfl | rfl) <;> simp [punctuation?] at known
  | word mem =>
    simp only [words, List.mem_cons, Prod.mk.injEq, List.not_mem_nil, or_false] at mem
    rcases mem with ⟨rfl, _⟩ | ⟨rfl, _⟩ | ⟨rfl, _⟩ <;> exact ⟨_, _, rfl, by decide, by decide, by
      simp [IsExponentMark]⟩
  | string => exact ⟨'"', _, rfl, by decide, by decide, by simp [IsExponentMark]⟩
  | number written =>
    obtain ⟨c, rest, rfl, digit | rfl⟩ := written.exists_cons
    · refine ⟨c, rest, rfl, ?_, ?_, ?_⟩
      · rintro (rfl | rfl | rfl | rfl) <;> simp at digit
      · rintro rfl; simp at digit
      · rintro (rfl | rfl) <;> simp at digit
    · exact ⟨'-', rest, rfl, by decide, by decide, by simp [IsExponentMark]⟩

theorem Written.endsNumber {text : Text} {tokens : List Token} (written : Written text tokens)
    (stop : Text.NoDigitFirst text) : EndsNumber text := by
  intro c first
  refine ⟨stop c first, ?_⟩
  cases written with
  | nil => simp at first
  | @space d _ _ isSpace =>
    obtain rfl : d = c := by simpa using first
    rcases isSpace with rfl | rfl | rfl | rfl <;> simp [IsExponentMark]
  | token head =>
    obtain ⟨d, rest, rfl, _, noPoint, noMark⟩ := head.exists_cons
    obtain rfl : d = c := by simpa using first
    exact ⟨noPoint, noMark⟩

theorem scanWord?_eq_none {c : Char} {rest : Text} (other : c.isDigit = true ∨ c = '-') :
    scanWord? (c :: rest) = none := by
  have miss : ∀ d : Char, d = 'n' ∨ d = 't' ∨ d = 'f' → d ≠ c := by
    rintro d letter rfl
    rcases letter with rfl | rfl | rfl <;> simp at other
  simp [scanWord?, words, Text.isPrefixOf?_nil, Text.isPrefixOf?_cons_cons, miss 'n', miss 't', miss 'f']

/-- A token is read as the token it is written for, if no digit stands behind a number and what follows is written
    for tokens. -/
theorem scanToken?_append {c : Char} {front rest : Text} {token : Token} {tokens : List Token}
    (written : WrittenToken (c :: front) token) (stop : ∀ value, token = .number value → Text.NoDigitFirst rest)
    (behind : Written rest tokens) : scanToken? c (front ++ rest) = some (token, rest) := by
  generalize text : c :: front = whole at written
  cases written with
  | @punctuation d token known =>
    obtain ⟨rfl, rfl⟩ := List.cons.inj text
    simp [scanToken?, known]
  | word mem =>
    simp only [words, List.mem_cons, Prod.mk.injEq, List.not_mem_nil, or_false] at mem
    rcases mem with ⟨rfl, rfl⟩ | ⟨rfl, rfl⟩ | ⟨rfl, rfl⟩ <;> obtain ⟨rfl, rfl⟩ := List.cons.inj text <;>
      simp [scanToken?, punctuation?, scanWord?, words, Text.isPrefixOf?_nil, Text.isPrefixOf?_cons_cons]
  | @string body pieces written =>
    obtain ⟨rfl, rfl⟩ := List.cons.inj text
    have scanned : scan? (body ++ ['"'] ++ rest) = some (pieces, rest) :=
      scan?_eq_some_iff.mpr ⟨body, written, by simp⟩
    simp only [scanToken?, punctuation?, if_pos]
    exact congrArg (Option.map _) scanned
  | @number _ value number =>
    obtain ⟨d, tail, rfl, begins⟩ := number.exists_cons
    obtain ⟨rfl, rfl⟩ := List.cons.inj text
    have scanned := scanNumber?_append number (behind.endsNumber (stop value rfl))
    have noPunctuation : punctuation? c = none := by
      rcases begins with digit | rfl
      · unfold punctuation?
        split <;> simp_all
      · rfl
    have noQuote : c ≠ '"' := by
      rintro rfl
      simp at begins
    rw [List.cons_append] at scanned
    simp [scanToken?, noPunctuation, noQuote, scanWord?_eq_none begins, scanned]

theorem written_of_scanToken? {c : Char} {rest after : Text} {token : Token}
    (scanned : scanToken? c rest = some (token, after)) :
    ∃ front, WrittenToken front token ∧ c :: rest = front ++ after ∧
      ∀ value, token = .number value → Text.NoDigitFirst after := by
  unfold scanToken? at scanned
  split at scanned
  · rename_i known
    obtain ⟨rfl, rfl⟩ := Prod.mk.inj (Option.some.inj scanned)
    refine ⟨[c], .punctuation known, rfl, ?_⟩
    rintro value rfl
    unfold punctuation? at known
    split at known <;> simp at known
  · split at scanned
    · rename_i quote
      subst quote
      obtain ⟨⟨pieces, last⟩, found, same⟩ := Option.map_eq_some_iff.mp scanned
      obtain ⟨rfl, rfl⟩ := Prod.mk.inj same
      obtain ⟨body, written, rfl⟩ := scan?_eq_some_iff.mp found
      exact ⟨_, .string written, by simp, by simp⟩
    · split at scanned
      · rename_i word
        obtain rfl := Option.some.inj scanned
        obtain ⟨⟨spelled, other⟩, mem, found⟩ := List.exists_of_findSome?_eq_some word
        obtain ⟨last, here, same⟩ := Option.map_eq_some_iff.mp found
        obtain ⟨rfl, rfl⟩ := Prod.mk.inj same
        refine ⟨spelled, .word mem, Text.isPrefixOf?_eq_some_iff.mp here, ?_⟩
        rintro value rfl
        simp [words] at mem
      · obtain ⟨⟨value, last⟩, found, same⟩ := Option.map_eq_some_iff.mp scanned
        obtain ⟨rfl, rfl⟩ := Prod.mk.inj same
        obtain ⟨front, written, shape, stop⟩ := written_of_scanNumber? found
        exact ⟨front, .number written, shape, fun _ _ => stop⟩

/-- A text is read as the tokens that it is written for, and as no others. -/
theorem tokens?_eq_some_iff {text : Text} {tokens : List Token} : tokens? text = some tokens ↔ Written text tokens := by
  constructor
  · intro read
    fun_induction tokens? text generalizing tokens with
    | case1 => obtain rfl := Option.some.inj read; exact .nil
    | case2 c rest isSpace ih => exact .space isSpace (ih read)
    | case3 c rest _ token after found ih =>
      obtain ⟨more, tail, rfl⟩ := Option.map_eq_some_iff.mp read
      obtain ⟨front, written, shape, stop⟩ := written_of_scanToken? found
      rw [shape]
      exact .token written stop (ih tail)
    | case4 => simp at read
  · intro written
    induction written with
    | nil => rw [tokens?]
    | space isSpace _ ih => rw [tokens?, if_pos isSpace, ih]
    | token head stop tail ih =>
      obtain ⟨c, front, rfl, black, _⟩ := head.exists_cons
      have found := scanToken?_append head stop tail
      rw [List.cons_append, tokens?, if_neg black]
      split
      · rename_i other scanned
        obtain ⟨rfl, rfl⟩ := Prod.mk.inj (Option.some.inj (found.symm.trans scanned))
        rw [ih]
        rfl
      · rename_i scanned
        simp [found] at scanned

end Verdict.Json
