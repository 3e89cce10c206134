import Verdict.Comparison

/-!
# Configurations

How strings are compared, and how deeply operands may be nested.
-/
namespace Verdict

/-- How expressions are evaluated. -/
structure Config where
  comparison : Comparison := .ordinal
  maxDepth : UInt64 := 256
  deriving DecidableEq, Repr

/-- The configuration with nothing set. -/
instance : Inhabited Config := ⟨{}⟩

end Verdict
