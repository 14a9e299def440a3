/-
**What a run of resolved paths can do to a join graph.**

Everything that changes a graph is a hop being joined. `Joined` says once what that can do, and
what holds of one hop carries over to all that is made of hops:

* `joined`: a hop is known, cannot be joined, or adds one join under a new alias;
* `follow_preserves`, `resolve_preserves`, `resolveAll_preserves`: what every joined hop keeps is
  kept by a chain of hops, by a path and by a run of paths;
* `joins_resolveAll`: no join is ever changed or moved;
* `Projection.progress_graph`: resolving a projection is such a run, over the fields with a path.
-/

import PathQuery.Proofs.Alias.Stem
import PathQuery.Projection

namespace PathQuery

open Text

/-- A hop that can be joined is one whose table's name has a letter. -/
theorem Hop.joinable?_eq_some_iff {segment : String} {hop : Hop} :
    joinable? segment = some hop ↔
      parse? segment = some hop ∧ hop.rightTable.toList.any isLetter = true := by
  simp only [joinable?, Option.filter_eq_some_iff]

namespace JoinGraph

/-- A graph with one more join, behind the others. -/
def push (graph : JoinGraph) (join : Join) : JoinGraph :=
  { graph with joins := graph.joins ++ [join] }

@[simp] theorem joins_push (graph : JoinGraph) (join : Join) :
    (graph.push join).joins = graph.joins ++ [join] := rfl

/-- The tables that a path can stand at: the source table and the aliases of the joins. -/
def tables (graph : JoinGraph) : List String := graph.source :: graph.joins.map (·.name)

/-! ### One hop -/

theorem segment_of_find? {graph : JoinGraph} {segment : String} {join : Join}
    (found : graph.find? segment = some join) : join.segment = segment := by
  simpa using List.find?_some found

/-- **What joining a hop can do.** -/
inductive Joined (graph : JoinGraph) (leftTable segment : String) : Resolution String → Prop
  /-- The hop has been joined before. -/
  | known (join : Join) (found : graph.find? segment = some join) :
      Joined graph leftTable segment ⟨some join.name, graph, []⟩
  /-- The hop leads nowhere. -/
  | refused (absent : graph.find? segment = none) (wrong : Hop.joinable? segment = none) :
      Joined graph leftTable segment ⟨none, graph, []⟩
  /-- The hop is joined for the first time. -/
  | added (hop : Hop) (name : String) (absent : graph.find? segment = none)
      (reads : Hop.joinable? segment = some hop)
      (allocated : Alias.allocate? hop.rightTable graph.joins = some name) :
      Joined graph leftTable segment
        ⟨some name, graph.push (Join.ofHop hop leftTable name graph.kind),
          [.aliasAllocated segment leftTable name]⟩

/-- **A hop does one of three things.** -/
theorem joined (graph : JoinGraph) (leftTable segment : String) :
    Joined graph leftTable segment (graph.join leftTable segment) := by
  unfold join
  cases found : graph.find? segment with
  | some known => exact .known known found
  | none =>
    cases read : Hop.parse? segment with
    | none => exact .refused found (by rw [Hop.joinable?, read]; rfl)
    | some hop =>
      have letters := Alias.isSome_allocate? hop.rightTable graph.joins
      cases allocated : Alias.allocate? hop.rightTable graph.joins with
      | none =>
        rw [allocated] at letters
        have wrong : Hop.joinable? segment = none := by
          rw [Hop.joinable?, read, Option.filter_some, ← letters]
          rfl
        simp only [allocated]
        exact .refused found wrong
      | some name =>
        rw [allocated] at letters
        simp only [allocated]
        exact .added hop name found (Hop.joinable?_eq_some_iff.mpr ⟨read, letters.symm⟩) allocated

/-- The alias that a hop leads to is one of the graph after it. -/
theorem mem_tables_of_join {graph : JoinGraph} {leftTable segment name : String}
    (answer : (graph.join leftTable segment).answer = some name) :
    name ∈ (graph.join leftTable segment).graph.tables := by
  have step := graph.joined leftTable segment
  generalize graph.join leftTable segment = result at step answer ⊢
  cases step with
  | known join found =>
    cases answer
    exact List.mem_cons_of_mem _ (List.mem_map_of_mem (List.mem_of_find?_eq_some found))
  | refused => cases answer
  | added hop name' => cases answer; simp [tables, Join.ofHop]

/-! ### Chains of hops, paths, and runs of paths -/

/-- Resolves the paths of fields one after the other. -/
def resolveAll (graph : JoinGraph) (calls : List (String × String)) : JoinGraph :=
  calls.foldl (fun graph call => (graph.resolve call.1 call.2).graph) graph

theorem resolveAll_cons (graph : JoinGraph) (field path : String)
    (rest : List (String × String)) :
    graph.resolveAll ((field, path) :: rest) =
      (graph.resolve field path).graph.resolveAll rest := rfl

theorem resolveAll_append (graph : JoinGraph) (calls more : List (String × String)) :
    graph.resolveAll (calls ++ more) = (graph.resolveAll calls).resolveAll more :=
  List.foldl_append

section Preserved

variable {P : JoinGraph → Prop}

/-- **What every hop keeps, a chain of hops keeps.** Hops are joined onto tables of the graph. -/
theorem follow_preserves
    (step : ∀ graph leftTable segment, P graph → leftTable ∈ graph.tables →
      P (graph.join leftTable segment).graph)
    (hops : List String) {graph : JoinGraph} {current : String} (holds : P graph)
    (standing : current ∈ graph.tables) : P (graph.follow current hops).graph := by
  induction hops generalizing graph current with
  | nil => exact holds
  | cons segment rest ih =>
    have next := step graph current segment holds standing
    cases answer : (graph.join current segment).answer with
    | none => simpa only [follow, answer] using next
    | some name => simpa only [follow, answer] using ih next (mem_tables_of_join answer)

theorem resolve_preserves
    (step : ∀ graph leftTable segment, P graph → leftTable ∈ graph.tables →
      P (graph.join leftTable segment).graph)
    (field path : String) {graph : JoinGraph} (holds : P graph) :
    P (graph.resolve field path).graph := by
  simp only [resolve]
  split
  · exact follow_preserves step _ holds List.mem_cons_self
  · exact holds

/-- **What every hop keeps, a run of paths keeps.** -/
theorem resolveAll_preserves
    (step : ∀ graph leftTable segment, P graph → leftTable ∈ graph.tables →
      P (graph.join leftTable segment).graph)
    (calls : List (String × String)) {graph : JoinGraph} (holds : P graph) :
    P (graph.resolveAll calls) := by
  induction calls generalizing graph with
  | nil => exact holds
  | cons call rest ih => exact ih (resolve_preserves step call.1 call.2 holds)

end Preserved

theorem join_frame (graph : JoinGraph) (leftTable segment : String) :
    (graph.join leftTable segment).graph.source = graph.source ∧
      (graph.join leftTable segment).graph.kind = graph.kind := by
  have step := graph.joined leftTable segment
  generalize graph.join leftTable segment = result at step ⊢
  cases step <;> exact ⟨rfl, rfl⟩

/-- **A graph only grows**, behind the joins that it has. -/
theorem joins_resolveAll (graph : JoinGraph) (calls : List (String × String)) :
    graph.joins <+: (graph.resolveAll calls).joins := by
  refine resolveAll_preserves (P := fun later => graph.joins <+: later.joins) ?_ calls
    (List.prefix_refl _)
  intro later leftTable segment grown _
  rcases later.join_joins leftTable segment with same | ⟨added, more⟩
  · rw [same]
    exact grown
  · rw [more]
    exact grown.trans (List.prefix_append _ _)

theorem source_resolveAll (graph : JoinGraph) (calls : List (String × String)) :
    (graph.resolveAll calls).source = graph.source :=
  resolveAll_preserves (P := fun later => later.source = graph.source)
    (fun later _ _ same _ => (later.join_frame _ _).1.trans same) calls rfl

theorem kind_resolveAll (graph : JoinGraph) (calls : List (String × String)) :
    (graph.resolveAll calls).kind = graph.kind :=
  resolveAll_preserves (P := fun later => later.kind = graph.kind)
    (fun later _ _ same _ => (later.join_frame _ _).2.trans same) calls rfl

end JoinGraph

/-! ### Projections as runs -/

namespace Projection

/-- The fields with a path, by name and path. -/
def calls (fields : List Field) : List (String × String) :=
  fields.filterMap fun field => field.path.map fun path => (field.name, path)

theorem graph_advance (projection : String) (progress : Progress) (field : Field) :
    (Field.advance projection progress field).graph = (field.resolve progress.graph).graph := by
  simp only [Field.advance]
  split <;> rfl

theorem columns_advance (projection : String) (progress : Progress) (field : Field) :
    (Field.advance projection progress field).columns =
      progress.columns ++ (field.resolve progress.graph).answer.toList := by
  simp only [Field.advance]
  split
  · rename_i column answer
    rw [answer, Option.toList_some]
  · rename_i answer
    rw [answer, Option.toList_none, List.append_nil]

/-- Fields without a path leave the graph alone. -/
theorem resolveAll_calls_cons (graph : JoinGraph) (field : Field) (rest : List Field) :
    graph.resolveAll (calls (field :: rest)) =
      (field.resolve graph).graph.resolveAll (calls rest) := by
  cases path : field.path with
  | none => simp [calls, Field.resolve, path]
  | some text => simp [calls, Field.resolve, path, JoinGraph.resolveAll]

theorem graph_foldl_advance (projection : String) (fields : List Field) (progress : Progress) :
    (fields.foldl (Field.advance projection) progress).graph =
      progress.graph.resolveAll (calls fields) := by
  induction fields generalizing progress with
  | nil => rfl
  | cons field rest ih => rw [List.foldl_cons, ih, graph_advance, resolveAll_calls_cons]

/-- **Resolving a projection is a run of its paths.** -/
theorem progress_graph (projection : Projection) (source : String) (kind : Option JoinKind) :
    (projection.progress source kind).graph =
      (JoinGraph.empty source kind).resolveAll (calls projection.fields) :=
  graph_foldl_advance _ _ _

end Projection

end PathQuery
