/-
**Values bound to parameters.**

A statement never holds a value, only the name of a parameter that the value is bound to.

* `Value.same`: values are equal when they are of one sort and have the same content.
-/

import PathQuery.Calendar.Timestamp
import PathQuery.Json.Basic
import PathQuery.Uuid

namespace PathQuery

/-- A value bound to a parameter. -/
inductive Value where
  | int (value : Int64)
  | uint (value : UInt64)
  | float (value : Float)
  | text (value : String)
  | boolean (value : Bool)
  | json (value : Json)
  | uuid (value : Uuid)
  | bytes (value : List UInt8)
  | date (value : Date)
  | timestamp (value : Timestamp)
  | null

namespace Value

/-- Equality of values. Floats are compared as such, so minus zero is zero. -/
def same : Value → Value → Bool
  | .int first, .int second => first == second
  | .uint first, .uint second => first == second
  | .float first, .float second => first == second
  | .text first, .text second => first == second
  | .boolean first, .boolean second => first == second
  | .json first, .json second => first.same second
  | .uuid first, .uuid second => first == second
  | .bytes first, .bytes second => first == second
  | .date first, .date second => first == second
  | .timestamp first, .timestamp second => first == second
  | .null, .null => true
  | _, _ => false

end Value

end PathQuery
