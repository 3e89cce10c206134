import Verdict.Showcase

/-!
# The program

Prints the showcase.
-/

/-- Prints one line for each expression of the showcase. -/
def main : IO Unit :=
  for line in Verdict.Showcase.lines do
    IO.println line
