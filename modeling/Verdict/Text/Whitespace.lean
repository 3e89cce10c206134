import Verdict.Text.Basic

/-!
# White space

The characters with the property `White_Space`, and texts without them at their ends. A trimmed text has no white
space at either end, and it is what is left of the text between two blank parts (`exists_trim_eq`).
-/
namespace Verdict.Text

/-- The code points of white space, as ranges with both ends. -/
def whitespaceRanges : List (Nat × Nat) :=
  [(0x09, 0x0D), (0x20, 0x20), (0x85, 0x85), (0xA0, 0xA0), (0x1680, 0x1680), (0x2000, 0x200A), (0x2028, 0x2029),
   (0x202F, 0x202F), (0x205F, 0x205F), (0x3000, 0x3000)]

/-- Whether a character is white space, in any script. -/
def isWhitespace (c : Char) : Bool :=
  whitespaceRanges.any fun (first, last) => first ≤ c.toNat && c.toNat ≤ last

theorem isWhitespace_of_core {c : Char} (white : c.isWhitespace = true) : isWhitespace c = true := by
  simp only [Char.isWhitespace, Bool.or_eq_true, decide_eq_true_eq] at white
  rcases white with ((rfl | rfl) | rfl) | rfl <;> decide

/-- Nothing but white space, or nothing at all. -/
def IsBlank (text : Text) : Prop :=
  ∀ c ∈ text, isWhitespace c = true

instance (text : Text) : Decidable (IsBlank text) :=
  decidable_of_iff (text.all isWhitespace = true) List.all_eq_true

theorem isBlank_nil : IsBlank [] :=
  List.forall_mem_nil _

theorem isBlank_space : IsBlank [' '] :=
  List.forall_mem_singleton.mpr rfl

def trimEnd (text : Text) : Text :=
  (text.reverse.dropWhile isWhitespace).reverse

/-- The text without the white space at its ends. -/
def trim (text : Text) : Text :=
  trimEnd (text.dropWhile isWhitespace)

theorem dropWhile_eq_nil_iff {text : Text} : text.dropWhile isWhitespace = [] ↔ IsBlank text := by
  induction text with
  | nil => simp [IsBlank]
  | cons c rest ih =>
    by_cases white : isWhitespace c = true
    · rw [List.dropWhile_cons_of_pos white, ih]
      simp [IsBlank, white]
    · rw [List.dropWhile_cons_of_neg white]
      simp [IsBlank, white]

/-- What is left of a text once it is trimmed stands in it between two blank parts. -/
theorem exists_trim_eq (text : Text) :
    ∃ before after, IsBlank before ∧ IsBlank after ∧ text = before ++ trim text ++ after := by
  refine ⟨text.takeWhile isWhitespace, ((text.dropWhile isWhitespace).reverse.takeWhile isWhitespace).reverse,
    ?_, ?_, ?_⟩
  · intro c mem
    exact List.all_eq_true.mp List.all_takeWhile c mem
  · intro c mem
    exact List.all_eq_true.mp List.all_takeWhile c (List.mem_reverse.mp mem)
  · rw [trim, trimEnd, List.append_assoc, ← List.reverse_append, List.takeWhile_append_dropWhile,
      List.reverse_reverse, List.takeWhile_append_dropWhile]

theorem trim_eq_nil_iff {text : Text} : trim text = [] ↔ IsBlank text := by
  rw [trim, trimEnd, List.reverse_eq_nil_iff, dropWhile_eq_nil_iff]
  constructor
  · intro blank c mem
    rw [← List.takeWhile_append_dropWhile (p := isWhitespace) (l := text)] at mem
    rcases List.mem_append.mp mem with front | back
    · exact List.all_eq_true.mp List.all_takeWhile c front
    · exact blank c (List.mem_reverse.mpr back)
  · intro blank c mem
    exact blank c ((List.dropWhile_suffix _).subset (List.mem_reverse.mp mem))

theorem trim_occurs (text : Text) : trim text <:+: text := by
  obtain ⟨before, after, _, _, whole⟩ := exists_trim_eq text
  exact ⟨before, after, whole.symm⟩

end Verdict.Text
