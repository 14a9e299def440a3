/-
**Dialects of SQL.**

Dialects differ in the marks around identifiers and in the hint behind a table. The closing mark
is doubled inside an identifier, so no identifier can end early.

* `Dialect.toList_quote`: a quoted identifier is a delimited text.
* `Dialect.find`: dialects by name, with blanks and the case of Latin letters set aside.
-/

import PathQuery.Column
import PathQuery.Error
import PathQuery.Text.Quoted

namespace PathQuery

open Text

/-- The dialects that statements can be written in. -/
inductive Dialect where
  | sqlServer
  | postgreSql
  deriving DecidableEq, Repr

namespace Dialect

/-- The name of a dialect. -/
def name : Dialect → String
  | sqlServer => "SQL Server"
  | postgreSql => "PostgreSQL"

/-- The mark in front of an identifier. -/
def opening : Dialect → Char
  | sqlServer => '['
  | postgreSql => '"'

/-- The mark behind an identifier. -/
def closing : Dialect → Char
  | sqlServer => ']'
  | postgreSql => '"'

/-- What stands in front of the name of a parameter. -/
def parameterMark : Dialect → String
  | sqlServer => "@"
  | postgreSql => "@"

/-- The hint behind a table, if the dialect takes one. -/
def lockHint? : Dialect → Option String
  | sqlServer => some "WITH (NOLOCK)"
  | postgreSql => none

/-- The dialect that goes by a name. -/
def find (name : String) : Except Error Dialect :=
  let plain := (trim name).toList.map Char.toLower
  if plain = "sqlserver".toList ∨ plain = "mssql".toList then .ok sqlServer
  else if plain = "postgres".toList ∨ plain = "postgresql".toList then .ok postgreSql
  else .error (.unknownDialect name)

/-! ### Parts of statements -/

/-- An identifier between its marks. -/
def quote (dialect : Dialect) (identifier : String) : String :=
  String.ofList (Quoted.encode dialect.opening dialect.closing identifier.toList)

/-- Reads a quoted identifier at the start of a text. -/
def scanIdentifier (dialect : Dialect) (text : List Char) : Option (String × List Char) :=
  (Quoted.scan dialect.opening dialect.closing text).map fun (name, rest) =>
    (String.ofList name, rest)

/-- The hint with the space in front of it. -/
def hint (dialect : Dialect) : String :=
  match dialect.lockHint? with
  | some hint => " " ++ hint
  | none => ""

/-- A column of a table. -/
def qualified (dialect : Dialect) (table column : String) : String :=
  dialect.quote table ++ "." ++ dialect.quote column

/-- An entry of a select list. -/
def column (dialect : Dialect) (column : Column) : String :=
  dialect.qualified column.table column.name ++
    match column.label with
    | some label => " AS " ++ dialect.quote label
    | none => ""

/-- A join. One whose kind is unset cannot be written. -/
def join (dialect : Dialect) (join : Join) : Except Error String :=
  match join.kind with
  | none => .error (.unsetJoinKind join.segment)
  | some kind =>
    .ok (kind.keywords ++ " " ++ dialect.quote join.rightTable ++ " AS " ++
      dialect.quote join.name ++ dialect.hint ++ " ON (" ++
      dialect.qualified join.name join.rightColumn ++ " = " ++
      dialect.qualified join.leftTable join.leftColumn ++ ")")

theorem toList_quote (dialect : Dialect) (identifier : String) :
    (dialect.quote identifier).toList =
      Quoted.encode dialect.opening dialect.closing identifier.toList := by
  simp [quote]

end Dialect

end PathQuery
