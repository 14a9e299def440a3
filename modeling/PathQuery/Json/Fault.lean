/-
**Why a JSON text cannot be read.**

Reading goes from left to right and stops at the first fault.
-/

namespace PathQuery.Json

/-- What stopped a reader. -/
inductive Fault where
  /-- The text ends too early. -/
  | truncated
  /-- The text is not JSON. -/
  | malformed
  /-- So far the text is JSON, but not of the wanted type. -/
  | mismatch
  deriving DecidableEq, Repr

/-- The name of a fault. -/
def Fault.category : Fault → String
  | .truncated => "eof"
  | .malformed => "syntax"
  | .mismatch => "data"

end PathQuery.Json
