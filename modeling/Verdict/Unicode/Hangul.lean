/-!
# Hangul syllables

A syllable block is a leading consonant, a vowel, and perhaps a trailing consonant. The blocks stand in one range in
the order of their letters, so a block is composed and taken apart by arithmetic.
-/
namespace Verdict.Unicode.Hangul

/-- The first leading consonant, of nineteen. -/
def leadBase : Nat := 0x1100

/-- The first vowel, of twenty-one. -/
def vowelBase : Nat := 0x1161

/-- The place before the first trailing consonant, of twenty-seven. -/
def trailBase : Nat := 0x11A7

/-- The first syllable block. -/
def blockBase : Nat := 0xAC00

def leads : Nat := 19
def vowels : Nat := 21
def trails : Nat := 28
def blocks : Nat := leads * vowels * trails

/-- The block that a leading consonant and a vowel become, or a block without a trailing consonant and such a
    consonant. -/
def composite? (base mark : Nat) : Option Nat :=
  if leadBase ≤ base ∧ base < leadBase + leads ∧ vowelBase ≤ mark ∧ mark < vowelBase + vowels then
    some (blockBase + ((base - leadBase) * vowels + (mark - vowelBase)) * trails)
  else if blockBase ≤ base ∧ base < blockBase + blocks ∧ (base - blockBase) % trails = 0 ∧
      trailBase < mark ∧ mark < trailBase + trails then
    some (base + (mark - trailBase))
  else none

/-- The two parts of a block: the block without its trailing consonant and that consonant, or the leading consonant
    and the vowel. -/
def pair? (block : Nat) : Option (Nat × Nat) :=
  if blockBase ≤ block ∧ block < blockBase + blocks then
    let place := block - blockBase
    if place % trails = 0 then
      some (leadBase + place / trails / vowels, vowelBase + place / trails % vowels)
    else some (block - place % trails, trailBase + place % trails)
  else none

/-- The parts of a block compose to the block. -/
theorem composite?_of_pair? {block base mark : Nat} (parts : pair? block = some (base, mark)) :
    composite? base mark = some block := by
  unfold pair? at parts
  unfold composite?
  unfold blocks leadBase vowelBase trailBase blockBase leads vowels trails at *
  split at parts
  · dsimp only at parts
    split at parts
    · obtain ⟨rfl, rfl⟩ := Prod.mk.inj (Option.some.inj parts)
      rw [if_pos (by omega)]
      exact congrArg some (by omega)
    · obtain ⟨rfl, rfl⟩ := Prod.mk.inj (Option.some.inj parts)
      rw [if_neg (by omega), if_pos (by omega)]
      exact congrArg some (by omega)
  · simp at parts

end Verdict.Unicode.Hangul
