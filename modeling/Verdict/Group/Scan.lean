import Verdict.Group

/-!
# Groups by position

The first closing parenthesis of a text ends its left-most group without groups, and the last opening one before it
begins that group. This finds the groups of a text with as many parentheses of one kind as of the other, and names
what is wrong where there is no such group.
-/
namespace Verdict

/-- The text between the first closing parenthesis and the last opening one before it, or nothing where no
    parenthesis is closed. Nothing may be closed before it is opened. Where the two stand side by side, the group is
    empty if the text ends there or the next character opens another group; otherwise the text up to the next group
    is at fault. -/
def groupAt? (text : Text) : Except EvalError (Option Text) :=
  match text.dropWhile (· ≠ ')') with
  | [] => .ok none
  | close :: after =>
    let front := text.takeWhile (· ≠ ')')
    let inner := (front.reverse.takeWhile (· ≠ '(')).reverse
    let following := after.takeWhile (· ≠ '(')
    if '(' ∉ front then .error (.unbalancedGroup (text.takeWhile (· ≠ '(')) '(')
    else if inner ≠ [] then .ok (some inner)
    else if following = [] then .error (.emptyGroup text)
    else .error (.unbalancedGroup (close :: following) '(')

/-- Nothing is found exactly where no parenthesis is closed. -/
theorem groupAt?_eq_none_iff {text : Text} : groupAt? text = .ok none ↔ ')' ∉ text := by
  have split := List.takeWhile_append_dropWhile (p := (· ≠ ')')) (l := text)
  unfold groupAt?
  split
  · rename_i unclosed
    rw [unclosed, List.append_nil] at split
    refine iff_of_true rfl fun mem => ?_
    rw [← split] at mem
    simpa using List.all_eq_true.mp List.all_takeWhile _ mem
  · rename_i close after shape
    have closed : close = ')' := by
      have := List.head?_dropWhile_not (fun c : Char => decide (c ≠ ')')) text
      rw [shape] at this
      simpa using this
    have mem : ')' ∈ text := by
      rw [← split, shape, closed]
      simp
    refine iff_of_false ?_ (not_not_intro mem)
    dsimp only
    split
    · simp
    · split
      · simp
      · split <;> simp

end Verdict
