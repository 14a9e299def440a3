/-
**The joins that a set of paths needs.**

Paths are resolved one after the other. A hop that has been joined before, by the same text, is
not joined again: the path goes on from its alias. Joins made before a path turns out to lead
nowhere stay, and later paths use them.

* `JoinGraph.join_joins`: one hop adds at most one join, behind the others.
* `JoinGraph.resolve_of_not_endsInColumn`, `JoinGraph.resolve_of_not_startsWell`: a path that is
  wrong at its end or at its start changes nothing.
-/

import PathQuery.Alias
import PathQuery.Column
import PathQuery.Event
import PathQuery.JoinPath

namespace PathQuery

/-- The joins made so far for one source table, all of one kind. -/
structure JoinGraph where
  source : String
  kind : Option JoinKind
  joins : List Join
  deriving DecidableEq, Repr

/-- What resolving something did: the answer if there is one, the graph after it and the events
on the way. -/
structure Resolution (α : Type) where
  answer : Option α
  graph : JoinGraph
  events : List Event
  deriving DecidableEq, Repr

namespace JoinGraph

/-- A graph without joins. -/
def empty (source : String) (kind : Option JoinKind) : JoinGraph := ⟨source, kind, []⟩

/-- The join that was made for a hop. -/
def find? (graph : JoinGraph) (segment : String) : Option Join :=
  graph.joins.find? (·.segment == segment)

/-- The alias that a hop leads to, joined onto `leftTable` unless it has been joined before. -/
def join (graph : JoinGraph) (leftTable segment : String) : Resolution String :=
  match graph.find? segment with
  | some known => ⟨some known.name, graph, []⟩
  | none =>
    match Hop.parse? segment with
    | none => ⟨none, graph, []⟩
    | some hop =>
      match Alias.allocate? hop.rightTable graph.joins with
      | none => ⟨none, graph, []⟩
      | some name =>
        { answer := some name
          graph := { graph with
            joins := graph.joins ++ [Join.ofHop hop leftTable name graph.kind] }
          events := [.aliasAllocated segment leftTable name] }

/-- The table that a chain of hops leads to, starting from `current`. -/
def follow (graph : JoinGraph) (current : String) : List String → Resolution String
  | [] => ⟨some current, graph, []⟩
  | segment :: rest =>
    let step := graph.join current segment
    match step.answer with
    | none => step
    | some name =>
      let later := step.graph.follow name rest
      { later with events := step.events ++ later.events }

/-- The column that a field's path leads to. -/
def resolve (graph : JoinGraph) (field path : String) : Resolution Column :=
  let path := JoinPath.ofText path
  if path.endsInColumn && path.startsWell then
    let walk := graph.follow graph.source path.hops
    { walk with answer := walk.answer.map fun table => ⟨table, path.column, some field⟩ }
  else ⟨none, graph, []⟩

theorem join_joins (graph : JoinGraph) (leftTable segment : String) :
    (graph.join leftTable segment).graph.joins = graph.joins ∨
      ∃ added, (graph.join leftTable segment).graph.joins = graph.joins ++ [added] := by
  unfold join
  split
  · exact .inl rfl
  · split
    · exact .inl rfl
    · split
      · exact .inl rfl
      · exact .inr ⟨_, rfl⟩

theorem resolve_of_not_endsInColumn (graph : JoinGraph) (field : String) {path : String}
    (wrong : (JoinPath.ofText path).endsInColumn = false) :
    graph.resolve field path = ⟨none, graph, []⟩ := by
  simp [resolve, wrong]

theorem resolve_of_not_startsWell (graph : JoinGraph) (field : String) {path : String}
    (wrong : (JoinPath.ofText path).startsWell = false) :
    graph.resolve field path = ⟨none, graph, []⟩ := by
  simp [resolve, wrong]

end JoinGraph

end PathQuery
