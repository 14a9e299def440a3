/-
**Projections.**

A projection is a named list of fields. A field without a path is a column of the source table
under its own name; a field with a path is the column that the path leads to, labelled with the
field's name. A field whose path leads nowhere is left out, and an event says so.

* `Projection.resolve_of_blank`: without a source table there is nothing to select, and nothing
  happens.
-/

import PathQuery.JoinGraph

namespace PathQuery

/-- A field and the path to its column. -/
structure Field where
  name : String
  path : Option String
  deriving DecidableEq, Repr

/-- A named list of fields. -/
structure Projection where
  name : String
  fields : List Field
  deriving DecidableEq, Repr

/-- A projection being resolved: the columns of the fields so far, the joins they need and the
events on the way. -/
structure Progress where
  columns : List Column
  graph : JoinGraph
  events : List Event
  deriving DecidableEq, Repr

namespace Field

/-- The column of a field. -/
def resolve (field : Field) (graph : JoinGraph) : Resolution Column :=
  match field.path with
  | none => ⟨some (.plain graph.source field.name), graph, []⟩
  | some path => graph.resolve field.name path

/-- Goes on with one more field of the named projection. -/
def advance (projection : String) (progress : Progress) (field : Field) : Progress :=
  let step := field.resolve progress.graph
  match step.answer with
  | some column =>
    ⟨progress.columns ++ [column], step.graph, progress.events ++ step.events⟩
  | none =>
    ⟨progress.columns, step.graph,
      progress.events ++ step.events ++
        [.fieldDropped projection field.name (field.path.getD "")]⟩

end Field

namespace Projection

/-- All fields, in declared order. -/
def progress (projection : Projection) (source : String) (kind : Option JoinKind) : Progress :=
  projection.fields.foldl (Field.advance projection.name) ⟨[], .empty source kind, []⟩

/-- What a projection selects from a source table, and the events on the way. -/
def resolve (projection : Projection) (source : String) (kind : Option JoinKind) :
    Option Selection × List Event :=
  if Text.allBlank source || projection.fields.isEmpty then (none, [])
  else
    let progress := projection.progress source kind
    (some ⟨progress.columns, progress.graph.joins⟩, progress.events)

theorem resolve_of_blank (projection : Projection) {source : String} (kind : Option JoinKind)
    (blank : Text.allBlank source = true) : projection.resolve source kind = (none, []) := by
  simp [resolve, blank]

end Projection

end PathQuery
