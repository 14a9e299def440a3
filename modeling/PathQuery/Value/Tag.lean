/-
**The sorts of values, by name.**

* `Tag.ofName?_name`: a sort is found by its name.
-/

import PathQuery.Value

namespace PathQuery.Value

/-- The sorts of values. -/
inductive Tag where
  | int
  | uint
  | float
  | text
  | boolean
  | json
  | uuid
  | bytes
  | date
  | timestamp
  | null
  deriving DecidableEq, Repr

namespace Tag

/-- The name of a sort. -/
def name : Tag → String
  | int => "Int"
  | uint => "Uint"
  | float => "Float"
  | text => "String"
  | boolean => "Boolean"
  | json => "Json"
  | uuid => "Uuid"
  | bytes => "Bytes"
  | date => "Date"
  | timestamp => "Timestamp"
  | null => "Null"

/-- All sorts. -/
def all : List Tag :=
  [int, uint, float, text, boolean, json, uuid, bytes, date, timestamp, null]

/-- The sort with this name. -/
def ofName? (name : String) : Option Tag := all.find? (·.name == name)

theorem ofName?_name (tag : Tag) : ofName? tag.name = some tag := by
  cases tag <;> rfl

end Tag

/-- The sort of a value. -/
def tag : Value → Tag
  | .int _ => .int
  | .uint _ => .uint
  | .float _ => .float
  | .text _ => .text
  | .boolean _ => .boolean
  | .json _ => .json
  | .uuid _ => .uuid
  | .bytes _ => .bytes
  | .date _ => .date
  | .timestamp _ => .timestamp
  | .null => .null

end PathQuery.Value
