/-
**Names are introduced before they are used.**

A join may stand only on a table that is there already, and so may a column. The source table is
there from the start, and every join brings its alias.

* `Scoped`: no hop is joined twice, no alias is given twice, and every join stands on the source
  table or on the alias of a join before it;
* `join_scoped`: joining a hop keeps this, whatever the hop does, and so do chains, paths and runs;
* `mem_tables_of_resolve`: a column is one of a table of the graph, which no later path takes away;
* `scoped_of_resolveAll`: so it is after any run of paths, and in every selection.
-/

import Mathlib.Data.List.Nodup
import PathQuery.Proofs.JoinGraph.Numbering
import PathQuery.Proofs.Projection.JoinList

namespace PathQuery

/-- **Joins in which every name is introduced before it is used.** -/
structure Scoped (source : String) (joins : List Join) : Prop where
  /-- No hop is joined twice. -/
  segments : (joins.map (·.segment)).Nodup
  /-- No alias is given twice. -/
  names : (joins.map (·.name)).Nodup
  /-- A join stands on the source table or on the alias of a join before it. -/
  leftTables : ∀ earlier join later, joins = earlier ++ join :: later →
    join.leftTable ∈ source :: earlier.map (·.name)

namespace Scoped

variable {source : String} {joins : List Join}

theorem nil (source : String) : Scoped source [] :=
  ⟨List.nodup_nil, List.nodup_nil, fun _ _ _ place => by simp at place⟩

/-- **A join with a hop and an alias of its own** may stand on every table that is there. -/
theorem snoc (before : Scoped source joins) {join : Join}
    (hop : join.segment ∉ joins.map (·.segment)) (fresh : join.name ∉ joins.map (·.name))
    (standing : join.leftTable ∈ source :: joins.map (·.name)) :
    Scoped source (joins ++ [join]) := by
  refine ⟨?_, ?_, fun earlier other later place => ?_⟩
  · rw [List.map_append, List.map_singleton, ← List.concat_eq_append]
    exact before.segments.concat hop
  · rw [List.map_append, List.map_singleton, ← List.concat_eq_append]
    exact before.names.concat fresh
  · rcases List.eq_nil_or_concat later with rfl | ⟨others, last, rfl⟩
    · obtain ⟨rfl, single⟩ := List.append_inj' place rfl
      cases single
      exact standing
    · rw [List.concat_eq_append, ← List.cons_append, ← List.append_assoc] at place
      obtain ⟨place, _⟩ := List.append_inj' place rfl
      exact before.leftTables earlier other others place

end Scoped

namespace JoinGraph

/-! ### One hop -/

theorem mem_tables_join {graph : JoinGraph} {table : String} (there : table ∈ graph.tables)
    (leftTable segment : String) : table ∈ (graph.join leftTable segment).graph.tables := by
  have step := graph.joined leftTable segment
  generalize graph.join leftTable segment = result at step ⊢
  cases step with
  | known join found => exact there
  | refused => exact there
  | added hop name absent reads allocated =>
    rw [tables, joins_push, List.map_append, ← List.cons_append]
    exact List.mem_append_left _ there

/-- **Joining a hop introduces its alias before anything uses it.** -/
theorem join_scoped {graph : JoinGraph} {leftTable segment : String}
    (holds : Scoped graph.source graph.joins) (standing : leftTable ∈ graph.tables) :
    Scoped (graph.join leftTable segment).graph.source
      (graph.join leftTable segment).graph.joins := by
  have step := graph.joined leftTable segment
  generalize graph.join leftTable segment = result at step ⊢
  cases step with
  | known join found => exact holds
  | refused => exact holds
  | added hop name absent reads allocated =>
    have spelled : hop.text = segment :=
      Hop.text_of_parse? (Hop.joinable?_eq_some_iff.mp reads).1
    refine holds.snoc ?_ (Alias.not_mem_of_allocate? allocated) standing
    intro before
    obtain ⟨join, member, same⟩ := List.mem_map.mp before
    have other := List.find?_eq_none.mp absent join member
    exact other (by simpa [Join.ofHop, spelled] using same)

/-! ### Chains, paths and runs -/

/-- A chain of hops ends at a table of the graph. -/
theorem mem_tables_of_follow (hops : List String) {graph : JoinGraph} {current table : String}
    (standing : current ∈ graph.tables) (answer : (graph.follow current hops).answer = some table) :
    table ∈ (graph.follow current hops).graph.tables := by
  induction hops generalizing graph current with
  | nil =>
    cases answer
    exact standing
  | cons segment rest ih =>
    cases step : (graph.join current segment).answer with
    | none =>
      simp only [follow, step] at answer
      cases answer
    | some name =>
      simp only [follow, step] at answer ⊢
      exact ih (mem_tables_of_join step) answer

/-- **A path leads to a column of a table of the graph.** -/
theorem mem_tables_of_resolve {graph : JoinGraph} {field path : String} {column : Column}
    (answer : (graph.resolve field path).answer = some column) :
    column.table ∈ (graph.resolve field path).graph.tables := by
  simp only [resolve] at answer ⊢
  split at answer
  · rename_i wellFormed
    rw [if_pos wellFormed]
    obtain ⟨table, reached, rfl⟩ := Option.map_eq_some_iff.mp answer
    exact mem_tables_of_follow _ List.mem_cons_self reached
  · cases answer

/-- Tables of a graph stay tables of the graph. -/
theorem mem_tables_resolveAll {graph : JoinGraph} {table : String} (there : table ∈ graph.tables)
    (calls : List (String × String)) : table ∈ (graph.resolveAll calls).tables :=
  resolveAll_preserves (P := fun later => table ∈ later.tables)
    (fun _ leftTable segment still _ => mem_tables_join still leftTable segment) calls there

/-- The answers to paths that are resolved one after the other. -/
def answers (graph : JoinGraph) : List (String × String) → List (Option Column)
  | [] => []
  | call :: rest =>
    (graph.resolve call.1 call.2).answer :: answers (graph.resolve call.1 call.2).graph rest

theorem answers_cons (graph : JoinGraph) (field path : String) (rest : List (String × String)) :
    graph.answers ((field, path) :: rest) =
      (graph.resolve field path).answer :: (graph.resolve field path).graph.answers rest := rfl

/-- **The columns of a run are of tables of the graph at its end.** -/
theorem mem_tables_of_answers {column : Column} (calls : List (String × String))
    {graph : JoinGraph} (answered : some column ∈ graph.answers calls) :
    column.table ∈ (graph.resolveAll calls).tables := by
  induction calls generalizing graph with
  | nil => cases answered
  | cons call rest ih =>
    obtain ⟨field, path⟩ := call
    rw [resolveAll_cons]
    rw [answers_cons] at answered
    rcases List.mem_cons.mp answered with here | later
    · exact mem_tables_resolveAll (mem_tables_of_resolve here.symm) rest
    · exact ih later

theorem scoped_resolveAll (source : String) (kind : Option JoinKind)
    (calls : List (String × String)) :
    Scoped source ((JoinGraph.empty source kind).resolveAll calls).joins := by
  have start : Scoped (empty source kind).source (empty source kind).joins := Scoped.nil source
  have holds := resolveAll_preserves (P := fun graph => Scoped graph.source graph.joins)
    (fun _ _ _ before standing => join_scoped before standing) calls start
  rwa [source_resolveAll] at holds

end JoinGraph

/-! ### Projections -/

namespace Field

theorem mem_tables_of_resolve {field : Field} {graph : JoinGraph} {column : Column}
    (answer : (field.resolve graph).answer = some column) :
    column.table ∈ (field.resolve graph).graph.tables := by
  unfold resolve at answer ⊢
  split at answer
  · cases answer
    exact List.mem_cons_self
  · exact JoinGraph.mem_tables_of_resolve answer

theorem mem_tables_resolve {graph : JoinGraph} {table : String} (there : table ∈ graph.tables)
    (field : Field) : table ∈ (field.resolve graph).graph.tables := by
  unfold resolve
  split
  · exact there
  · rename_i path annotated
    exact JoinGraph.mem_tables_resolveAll there [(field.name, path)]

/-- One field more leaves every column of a table of the graph. -/
theorem mem_tables_advance {progress : Progress}
    (before : ∀ column ∈ progress.columns, column.table ∈ progress.graph.tables)
    (projection : String) (field : Field) :
    ∀ column ∈ (advance projection progress field).columns,
      column.table ∈ (advance projection progress field).graph.tables := by
  intro column member
  rw [Projection.graph_advance]
  rw [Projection.columns_advance, List.mem_append, Option.mem_toList] at member
  rcases member with old | new
  · exact mem_tables_resolve (before column old) field
  · exact mem_tables_of_resolve new

end Field

/-- **The columns of a projection are of tables of its graph.** -/
theorem Projection.mem_tables_progress (projection : Projection) (source : String)
    (kind : Option JoinKind) :
    ∀ column ∈ (projection.progress source kind).columns,
      column.table ∈ (projection.progress source kind).graph.tables := by
  unfold progress
  generalize begun : (⟨[], .empty source kind, []⟩ : Progress) = progress
  have start : ∀ column ∈ progress.columns, column.table ∈ progress.graph.tables := by
    rw [← begun]
    exact fun _ member => by cases member
  clear begun
  induction projection.fields generalizing progress with
  | nil => exact start
  | cons field rest ih => exact ih _ (Field.mem_tables_advance start projection.name field)

namespace JoinGraph

/-- **Names are introduced before they are used**: after any run of paths, those that lead nowhere
included, and in every selection. No hop is joined twice, no alias is given twice, a join stands on
the source table or on the alias of a join before it, and a column that was found at any time is of
the source table or of an alias that is still there. -/
theorem scoped_of_resolveAll (source : String) (kind : Option JoinKind) :
    (∀ calls : List (String × String),
      Scoped source ((JoinGraph.empty source kind).resolveAll calls).joins ∧
        ∀ column, some column ∈ (JoinGraph.empty source kind).answers calls →
          column.table ∈
            source :: ((JoinGraph.empty source kind).resolveAll calls).joins.map (·.name)) ∧
    ∀ (projection : Projection) (selection : Selection) (events : List Event),
      projection.resolve source kind = (some selection, events) →
        Scoped source selection.joins ∧
          ∀ column ∈ selection.columns,
            column.table ∈ source :: selection.joins.map (·.name) := by
  constructor
  · intro calls
    refine ⟨scoped_resolveAll source kind calls, fun column answered => ?_⟩
    have there := mem_tables_of_answers calls answered
    rwa [tables, source_resolveAll] at there
  · intro projection selection events resolved
    obtain rfl := Projection.selection_of_resolve resolved
    constructor
    · rw [Projection.progress_graph]
      exact scoped_resolveAll source kind _
    · have there := projection.mem_tables_progress source kind
      rwa [tables, Projection.progress_source] at there

/-- The first and the last of the colliding calls find columns, the one between them leaves a join
behind. A selection's path may come back to a hop that it stood on before. -/
theorem scoped_of_collidingCalls :
    Scoped "Source" collidingJoins ∧
      (empty "Source" (some .left)).answers collidingCalls =
        [some ⟨"RigTab2", "Value", some "First"⟩, none, some ⟨"RigTab4", "Value", some "Third"⟩] ∧
      "RigTab2" ∈ "Source" :: collidingJoins.map (·.name) ∧
      ∃ selection events,
        Projection.entangled.resolve "Source" (some .left) = (some selection, events) ∧
          Scoped "Source" selection.joins ∧
          ⟨"B1", "Value", some "Loop"⟩ ∈ selection.columns ∧
          "B1" ∈ "Source" :: selection.joins.map (·.name) := by
  -- The calls one at a time, each on the graph that the one before it leaves.
  have first : (empty "Source" (some .left)).resolve "First"
      "[RightTable:Id:Id].[RigidTabs:Id:Id].Value" =
        ⟨some ⟨"RigTab2", "Value", some "First"⟩, ⟨"Source", some .left, collidingJoins.take 2⟩,
          [.aliasAllocated "[RightTable:Id:Id]" "Source" "RigTab1",
            .aliasAllocated "[RigidTabs:Id:Id]" "RigTab1" "RigTab2"]⟩ := by
    decide +kernel
  have second : (⟨"Source", some .left, collidingJoins.take 2⟩ : JoinGraph).resolve "Second"
      "[RigTab:Id:Id].[_1:Id:Id].Value" =
        ⟨none, ⟨"Source", some .left, collidingJoins.take 3⟩,
          [.aliasAllocated "[RigTab:Id:Id]" "Source" "RigTab3"]⟩ := by
    decide +kernel
  have third : (⟨"Source", some .left, collidingJoins.take 3⟩ : JoinGraph).resolve "Third"
      "[RightTable:Id:Other].Value" =
        ⟨some ⟨"RigTab4", "Value", some "Third"⟩, ⟨"Source", some .left, collidingJoins⟩,
          [.aliasAllocated "[RightTable:Id:Other]" "Source" "RigTab4"]⟩ := by
    decide +kernel
  have run : ((empty "Source" (some .left)).resolveAll collidingCalls).joins = collidingJoins := by
    rw [collidingCalls, resolveAll_cons, first, resolveAll_cons, second, resolveAll_cons, third]
    rfl
  have found : (empty "Source" (some .left)).answers collidingCalls =
      [some ⟨"RigTab2", "Value", some "First"⟩, none,
        some ⟨"RigTab4", "Value", some "Third"⟩] := by
    rw [collidingCalls, answers_cons, first, answers_cons, second, answers_cons, third]
    rfl
  have loop : ⟨"B1", "Value", some "Loop"⟩ ∈
      (Projection.entangled.progress "Source" (some .left)).columns := by
    decide +kernel
  obtain ⟨runs, selections⟩ := scoped_of_resolveAll "Source" (some .left)
  obtain ⟨holds, columns⟩ := runs collidingCalls
  rw [run] at holds columns
  have there := columns ⟨"RigTab2", "Value", some "First"⟩ (found ▸ List.mem_cons_self)
  have named : Text.allBlank "Source" = false := by decide
  have resolved := Projection.entangled.resolve_of_named (some .left) named nofun
  obtain ⟨holds', columns'⟩ := selections _ _ _ resolved
  have back := columns' _ loop
  exact ⟨holds, found, there, _, _, resolved, holds', loop, back⟩

end JoinGraph

end PathQuery
