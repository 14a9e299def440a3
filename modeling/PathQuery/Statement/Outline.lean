/-
**Outlines of statements.**

The outline of a statement is what its text says: the columns, the source table, the joins without
the hops that asked for them, and the text of the condition. It can be read back from the text,
whatever the names in it are.

* `Statement.outline?`: the outline of a statement. One with a join of unset kind has none.
* `Outline.ofText?`: the outline that a text spells.
-/

import PathQuery.Statement
import PathQuery.Text.Scan

namespace PathQuery

open Text

/-- A join as a statement spells it. -/
structure JoinLine where
  kind : JoinKind
  rightTable : String
  name : String
  rightColumn : String
  leftTable : String
  leftColumn : String
  deriving DecidableEq, Repr

/-- What the text of a statement says. -/
structure Outline where
  columns : List Column
  source : String
  joins : List JoinLine
  /-- The text behind WHERE, which is not empty. -/
  condition : Option String
  deriving DecidableEq, Repr

/-- A join as it is spelled, if its kind is set. -/
def Join.line? (join : Join) : Option JoinLine :=
  join.kind.map fun kind =>
    ⟨kind, join.rightTable, join.name, join.rightColumn, join.leftTable, join.leftColumn⟩

namespace Statement

/-- The text of the condition, unless it is missing or empty. -/
def condition? (statement : Statement) : Option String :=
  (statement.filter.map (·.sql)).filter fun sql => !sql.isEmpty

/-- What a statement says. -/
def outline? (statement : Statement) : Option Outline :=
  (statement.selection.joins.mapM Join.line?).map fun joins =>
    ⟨statement.selection.columns, statement.source, joins, statement.condition?⟩

end Statement

namespace Dialect

/-- Reads a table and its column. -/
def scanQualified (dialect : Dialect) : Scan (String × String) := do
  let table ← dialect.scanIdentifier
  Scan.exactly ['.']
  let column ← dialect.scanIdentifier
  return (table, column)

/-- Reads an entry of a select list. -/
def scanColumn (dialect : Dialect) : Scan Column := do
  let (table, name) ← dialect.scanQualified
  if ← Scan.literal " AS ".toList then
    let label ← dialect.scanIdentifier
    return ⟨table, name, some label⟩
  else return ⟨table, name, none⟩

/-- Reads another entry of a select list, if there is one. -/
def scanNextColumn (dialect : Dialect) : Scan (Option Column) := do
  if ← Scan.literal ", ".toList then some <$> dialect.scanColumn else return none

end Dialect

/-- Reads the words that introduce a join, with the spaces around them, if they come next. -/
def JoinKind.scan : Scan (Option JoinKind) := do
  if ← Scan.literal " INNER JOIN ".toList then return some .inner
  else if ← Scan.literal " LEFT JOIN ".toList then return some .left
  else if ← Scan.literal " RIGHT JOIN ".toList then return some .right
  else if ← Scan.literal " FULL OUTER JOIN ".toList then return some .fullOuter
  else return none

namespace Dialect

/-- Reads a join behind the words that introduce it. -/
def scanJoin (dialect : Dialect) (kind : JoinKind) : Scan JoinLine := do
  let rightTable ← dialect.scanIdentifier
  Scan.exactly " AS ".toList
  let name ← dialect.scanIdentifier
  Scan.exactly dialect.hint.toList
  Scan.exactly " ON (".toList
  let (other, rightColumn) ← dialect.scanQualified
  if other ≠ name then failure
  Scan.exactly " = ".toList
  let (leftTable, leftColumn) ← dialect.scanQualified
  Scan.exactly [')']
  return ⟨kind, rightTable, name, rightColumn, leftTable, leftColumn⟩

/-- Reads another join, if there is one. -/
def scanNextJoin (dialect : Dialect) : Scan (Option JoinLine) := do
  match ← JoinKind.scan with
  | none => return none
  | some kind => some <$> dialect.scanJoin kind

end Dialect

namespace Outline

/-- Reads the condition, which takes all that is left. -/
def scanCondition : Scan (Option String) := do
  if (← get).isEmpty then return none
  Scan.exactly " WHERE ".toList
  let condition ← Scan.takeWhile fun _ => true
  if condition.isEmpty then failure
  return some (String.ofList condition)

/-- Reads an outline. -/
def scan (dialect : Dialect) : Scan Outline := do
  Scan.exactly "SELECT ".toList
  let first ← dialect.scanColumn
  let others ← Scan.many dialect.scanNextColumn
  Scan.exactly " FROM ".toList
  let source ← dialect.scanIdentifier
  Scan.exactly dialect.hint.toList
  let joins ← Scan.many dialect.scanNextJoin
  let condition ← scanCondition
  return ⟨first :: others, source, joins, condition⟩

/-- The outline that a text spells. -/
def ofText? (dialect : Dialect) (text : String) : Option Outline :=
  Scan.whole (scan dialect) text

end Outline

end PathQuery
