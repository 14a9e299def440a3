/-
**Select statements.**

A statement is written behind what a draft already holds. It is written in one go, from the select
list to the condition; a join of unset kind stops it, and what was written before stays.

* `Statement.write_of_no_columns`: nothing is written without columns.
-/

import PathQuery.Filter.Compile

namespace PathQuery

/-- Text written so far, and the values of its parameters. -/
structure Draft where
  sql : String
  params : Params

/-- A draft without text. -/
def Draft.empty : Draft := ⟨"", .empty⟩

/-- A selection from a source table, perhaps under a condition. -/
structure Statement where
  source : String
  selection : Selection
  filter : Option Clause

namespace Dialect

/-- The select list and the source table. -/
def head (dialect : Dialect) (columns : List Column) (source : String) : String :=
  "SELECT " ++ ", ".intercalate (columns.map dialect.column) ++ " FROM " ++
    dialect.quote source ++ dialect.hint

/-- Joins behind a text, up to the first that cannot be written, and the error of that one. The
space in front of it is written all the same. -/
def joins (dialect : Dialect) (sql : String) : List Join → String × Option Error
  | [] => (sql, none)
  | join :: rest =>
    match dialect.join join with
    | .error error => (sql ++ " ", some error)
    | .ok text => dialect.joins (sql ++ " " ++ text) rest

end Dialect

namespace Statement

/-- Writes a statement behind a draft. -/
def write (statement : Statement) (dialect : Dialect) (draft : Draft) : Draft × Option Error :=
  if statement.selection.columns.isEmpty then (draft, some (.noColumns statement.source))
  else
    let head := draft.sql ++ dialect.head statement.selection.columns statement.source
    match dialect.joins head statement.selection.joins with
    | (sql, some error) => (⟨sql, draft.params⟩, some error)
    | (sql, none) =>
      match statement.filter with
      | none => (⟨sql, draft.params⟩, none)
      | some clause =>
        if clause.sql.isEmpty then (⟨sql, draft.params⟩, none)
        else (⟨sql ++ " WHERE " ++ clause.sql, draft.params.extend clause.params⟩, none)

theorem write_of_no_columns {statement : Statement} (dialect : Dialect) (draft : Draft)
    (empty : statement.selection.columns = []) :
    statement.write dialect draft = (draft, some (.noColumns statement.source)) := by
  simp [write, empty]

end Statement

end PathQuery
