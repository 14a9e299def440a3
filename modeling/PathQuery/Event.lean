/-
**Events.**

What happens on the way to an answer is told by events, in the order in which it happens.
-/

namespace PathQuery

/-- How much an event matters. -/
inductive Level where
  | trace
  | debug
  | warn
  deriving DecidableEq, Repr

/-- Something that happened while a query was composed. -/
inductive Event where
  /-- A hop was joined for the first time. -/
  | aliasAllocated (segment leftTable name : String)
  /-- A field was left out because its path leads nowhere. -/
  | fieldDropped (projection field path : String)
  /-- A projection had been resolved before. -/
  | cacheHit (source projection : String)
  /-- A projection has to be resolved. -/
  | cacheMiss (source projection : String)
  /-- A filter became a condition with this many parameters. -/
  | filterCompiled (sql : String) (parameters : Nat)
  deriving DecidableEq, Repr

namespace Event

/-- The level of an event. -/
def level : Event → Level
  | aliasAllocated .. | cacheHit .. | cacheMiss .. => .debug
  | fieldDropped .. => .warn
  | filterCompiled .. => .trace

/-- The words for an event. -/
def message : Event → String
  | aliasAllocated .. => "Allocated join alias"
  | fieldDropped .. => "Dropping field with malformed join path"
  | cacheHit .. => "Column cache hit"
  | cacheMiss .. => "Column cache miss"
  | filterCompiled .. => "Compiled filter"

end Event

end PathQuery
