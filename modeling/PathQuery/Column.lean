/-
**Columns of a select list, and what is selected as a whole.**
-/

import PathQuery.Join

namespace PathQuery

/-- A column of a table, selected under its own name or under a label. -/
structure Column where
  /-- The source table, or the alias of a join. -/
  table : String
  name : String
  label : Option String
  deriving DecidableEq, Repr

namespace Column

/-- A column under its own name. -/
def plain (table name : String) : Column := ⟨table, name, none⟩

/-- A column in words, without quoting. -/
def describe (column : Column) : String :=
  column.table ++ "." ++ column.name ++
    match column.label with
    | none => ""
    | some label => " AS " ++ label

end Column

/-- The columns that are selected and the joins that they need. -/
structure Selection where
  columns : List Column
  joins : List Join
  deriving DecidableEq, Repr

end PathQuery
