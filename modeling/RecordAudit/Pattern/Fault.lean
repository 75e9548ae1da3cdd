/-!
# Faults of patterns

Why a text is not accepted as a pattern.
-/

namespace RecordAudit

/-- Why a pattern is refused. -/
inductive PatternFault where
  /-- The text breaks the grammar of patterns. -/
  | malformed
  /-- Groups, classes or repetitions stand too deep inside each other. -/
  | tooDeep
  /-- A machine of the pattern takes too many bytes once repetitions are written out. -/
  | tooLarge
deriving Repr, DecidableEq

end RecordAudit
