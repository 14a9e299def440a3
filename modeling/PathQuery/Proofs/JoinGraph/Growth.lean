/-
**A join graph only grows, and what was resolved stays resolved.**

Resolving something can only add joins behind those that are there, with an event for each
(`Adds`). Which joins a path adds depends on the hops that are new, and a path that was resolved
before has none left, whether it led to a column or not:

* `join_adds`, `follow_adds`, `resolve_adds`: what a hop, a chain of hops and a path add;
* `Records.resolve_of_mentioned`: a path whose attempted hops are all known adds nothing;
* `resolve_again`: so resolving a path again gives the answer that it had, and nothing happens;
* `growth_of_resolveAll`: growth over whole runs, and over longer and longer projections.
-/

import PathQuery.Proofs.Projection.Columns

namespace PathQuery

/-- The event that tells of a join. -/
def Join.allocation (join : Join) : Event := .aliasAllocated join.segment join.leftTable join.name

namespace JoinGraph

/-- A graph with more joins, behind the others. -/
def extend (graph : JoinGraph) (added : List Join) : JoinGraph :=
  { graph with joins := graph.joins ++ added }

@[simp] theorem joins_extend (graph : JoinGraph) (added : List Join) :
    (graph.extend added).joins = graph.joins ++ added := rfl

@[simp] theorem extend_nil (graph : JoinGraph) : graph.extend [] = graph := by
  simp [extend]

@[simp] theorem extend_extend (graph : JoinGraph) (added more : List Join) :
    (graph.extend added).extend more = graph.extend (added ++ more) := by
  simp [extend]

/-! ### What is added -/

/-- **What resolving something adds to a graph**: these joins, and an event for each. -/
structure Adds {α : Type} (graph : JoinGraph) (added : List Join) (result : Resolution α) :
    Prop where
  graph : result.graph = graph.extend added
  events : result.events = added.map Join.allocation

theorem adds_nil {α : Type} (graph : JoinGraph) (answer : Option α) :
    Adds graph [] ⟨answer, graph, []⟩ := ⟨graph.extend_nil.symm, rfl⟩

/-- **A hop adds its join**, or nothing. -/
theorem join_adds (graph : JoinGraph) (leftTable segment : String) :
    ∃ added, Adds graph added (graph.join leftTable segment) := by
  have step := graph.joined leftTable segment
  generalize graph.join leftTable segment = result at step ⊢
  cases step with
  | known join found => exact ⟨[], graph.adds_nil _⟩
  | refused => exact ⟨[], graph.adds_nil _⟩
  | added hop name absent reads allocated =>
    have spelled : hop.text = segment :=
      Hop.text_of_parse? (Hop.joinable?_eq_some_iff.mp reads).1
    refine ⟨[Join.ofHop hop leftTable name graph.kind], rfl, ?_⟩
    rw [List.map_singleton, ← spelled]
    rfl

/-- **A chain of hops adds what its hops add**, up to the first that leads nowhere. -/
theorem follow_adds (hops : List String) (graph : JoinGraph) (current : String) :
    ∃ added, Adds graph added (graph.follow current hops) := by
  induction hops generalizing graph current with
  | nil => exact ⟨[], graph.adds_nil _⟩
  | cons segment rest ih =>
    obtain ⟨first, step⟩ := graph.join_adds current segment
    cases answer : (graph.join current segment).answer with
    | none => exact ⟨first, by simpa only [follow, answer] using step⟩
    | some name =>
      obtain ⟨others, later⟩ := ih (graph.join current segment).graph name
      simp only [follow, answer]
      refine ⟨first ++ others, ?_, ?_⟩
      · rw [later.graph, step.graph, extend_extend]
      · rw [later.events, step.events, List.map_append]

/-- **What a path adds.** -/
theorem resolve_adds (graph : JoinGraph) (field path : String) :
    ∃ added, Adds graph added (graph.resolve field path) := by
  simp only [resolve]
  split
  · obtain ⟨added, walk⟩ := graph.follow_adds (JoinPath.ofText path).hops graph.source
    exact ⟨added, walk.graph, walk.events⟩
  · exact ⟨[], graph.adds_nil _⟩

/-! ### Paths that were resolved before -/

/-- **A path whose attempted hops are all known adds nothing**, and no event tells of it. -/
theorem Records.resolve_of_mentioned {graph : JoinGraph} {mentions : List Mention}
    (records : Records graph mentions) (field : String) {path : String}
    (known : (JoinPath.ofText path).attemptedHops ⊆ mentions.map (·.hop)) :
    graph.resolve field path = ⟨(graph.resolve field path).answer, graph, []⟩ := by
  obtain ⟨added, adds⟩ := graph.resolve_adds field path
  have segments := (resolve_records records field path).segments
  -- The joins are the hops mentioned, each once, and these are the same as before.
  rw [adds.graph, joins_extend, List.map_append, List.map_append, JoinPath.mentions,
    map_hop_mentionsAfter, eraseDups_append_of_subset known, ← records.segments,
    List.append_right_eq_self, List.map_eq_nil_iff] at segments
  subst segments
  have same := adds.graph
  have silent := adds.events
  rw [extend_nil] at same
  generalize graph.resolve field path = result at same silent ⊢
  cases result
  cases same
  cases silent
  rfl

/-- A path that was resolved in a run has all its attempted hops mentioned. -/
theorem attemptedHops_subset_mentionsOf {calls : List (String × String)} {field path : String}
    (resolved : (field, path) ∈ calls) :
    (JoinPath.ofText path).attemptedHops ⊆ (mentionsOf (calls.map (·.2))).map (·.hop) :=
  fun _ attempted => mem_mentionsOf (List.mem_map_of_mem resolved) attempted

/-- **An answer stays** while the graph behind it grows. -/
theorem Records.answer_of_grown {graph later : JoinGraph} {mentions more : List Mention}
    (records : Records graph mentions) (records' : Records later more) {field path : String}
    (grown : (graph.resolve field path).graph.joins <+: later.joins)
    (source : later.source = (graph.resolve field path).graph.source)
    (idle : (later.resolve field path).graph = later) :
    (later.resolve field path).answer = (graph.resolve field path).answer := by
  have answered := isSome_resolve_iff records field path
  rw [resolve_answer records', idle, source]
  rw [resolve_answer records] at answered ⊢
  by_cases usable : (JoinPath.ofText path).Usable
  · have column := answered.mpr usable
    rw [if_pos usable, Option.isSome_map] at column
    obtain ⟨table, stands⟩ := Option.isSome_iff_exists.mp column
    obtain ⟨others, joins⟩ := grown
    rw [if_pos usable, if_pos usable, stands, ← joins, standing?_append stands others]
  · rw [if_neg usable, if_neg usable]

/-- **Resolving a path again gives the answer that it had**, whatever was resolved since. Nothing is
added, and no event tells of it. -/
theorem resolve_again (source : String) (kind : Option JoinKind)
    (before : List (String × String)) (field path : String) (after : List (String × String)) :
    ((empty source kind).resolveAll (before ++ (field, path) :: after)).resolve field path =
      ⟨(((empty source kind).resolveAll before).resolve field path).answer,
        (empty source kind).resolveAll (before ++ (field, path) :: after), []⟩ := by
  have first := resolveAll_records before (Records.empty source kind)
  have now := resolveAll_records (before ++ (field, path) :: after) (Records.empty source kind)
  have since : (empty source kind).resolveAll (before ++ (field, path) :: after) =
      (((empty source kind).resolveAll before).resolve field path).graph.resolveAll after := by
    rw [resolveAll_append, resolveAll_cons]
  have listed : (field, path) ∈ before ++ (field, path) :: after :=
    List.mem_append_right before List.mem_cons_self
  have idle := now.resolve_of_mentioned field (attemptedHops_subset_mentionsOf listed)
  have grown : (((empty source kind).resolveAll before).resolve field path).graph.joins <+:
      ((empty source kind).resolveAll (before ++ (field, path) :: after)).joins := by
    rw [since]
    exact joins_resolveAll _ after
  have frame : ((empty source kind).resolveAll (before ++ (field, path) :: after)).source =
      (((empty source kind).resolveAll before).resolve field path).graph.source := by
    rw [since, source_resolveAll]
  have kept := first.answer_of_grown now grown frame (congrArg Resolution.graph idle)
  rw [idle, kept]

end JoinGraph

/-! ### Projections -/

namespace Projection

theorem outcomesFrom_append (graph : JoinGraph) (fields more : List Field) :
    outcomesFrom graph (fields ++ more) =
      outcomesFrom graph fields ++ outcomesFrom (graph.resolveAll (calls fields)) more := by
  induction fields generalizing graph with
  | nil => rfl
  | cons field rest ih =>
    rw [List.cons_append, outcomesFrom, ih, outcomesFrom, List.cons_append, resolveAll_calls_cons]

/-- **More fields behind the others add columns and joins behind the others.** -/
theorem progress_append (name longer : String) (fields more : List Field) (source : String)
    (kind : Option JoinKind) :
    (Projection.progress ⟨name, fields⟩ source kind).columns <+:
        (Projection.progress ⟨longer, fields ++ more⟩ source kind).columns ∧
      (Projection.progress ⟨name, fields⟩ source kind).graph.joins <+:
        (Projection.progress ⟨longer, fields ++ more⟩ source kind).graph.joins := by
  constructor
  · rw [columns_progress, columns_progress, outcomes, outcomes, outcomesFrom_append,
      List.filterMap_append]
    exact List.prefix_append _ _
  · rw [progress_graph, progress_graph, calls, calls, List.filterMap_append,
      JoinGraph.resolveAll_append]
    exact JoinGraph.joins_resolveAll _ _

end Projection

namespace JoinGraph

/-- **A graph only grows, and resolving a path again is free.** At any time, later paths leave the
joins as they are and add theirs behind them, those that lead nowhere included. A path that is wrong
at its end or at its start changes nothing. A path that was resolved before has the answer that it
had, adds nothing and is told of by no event. So a projection with more fields behind the others
has more columns and joins behind the others. -/
theorem growth_of_resolveAll (source : String) (kind : Option JoinKind) :
    (∀ calls more : List (String × String),
      ((empty source kind).resolveAll calls).joins <+:
        (((empty source kind).resolveAll calls).resolveAll more).joins) ∧
    (∀ (calls : List (String × String)) (field path : String),
      (JoinPath.ofText path).endsInColumn = false ∨ (JoinPath.ofText path).startsWell = false →
        ((empty source kind).resolveAll calls).resolve field path =
          ⟨none, (empty source kind).resolveAll calls, []⟩) ∧
    (∀ (before : List (String × String)) (field path : String) (after : List (String × String)),
      ((empty source kind).resolveAll (before ++ (field, path) :: after)).resolve field path =
        ⟨(((empty source kind).resolveAll before).resolve field path).answer,
          (empty source kind).resolveAll (before ++ (field, path) :: after), []⟩) ∧
    ∀ (name longer : String) (fields more : List Field), fields ≠ [] →
      (Text.allBlank source = true →
        (Projection.resolve ⟨name, fields⟩ source kind).1 = none ∧
          (Projection.resolve ⟨longer, fields ++ more⟩ source kind).1 = none) ∧
      (Text.allBlank source = false → ∃ selection whole,
        (Projection.resolve ⟨name, fields⟩ source kind).1 = some selection ∧
          (Projection.resolve ⟨longer, fields ++ more⟩ source kind).1 = some whole ∧
          selection.columns <+: whole.columns ∧ selection.joins <+: whole.joins) := by
  refine ⟨fun calls more => joins_resolveAll _ more, fun calls field path wrong => ?_,
    resolve_again source kind, fun name longer fields more declared => ⟨fun blank => ?_,
      fun named => ?_⟩⟩
  · rcases wrong with ends | starts
    · exact resolve_of_not_endsInColumn _ field ends
    · exact resolve_of_not_startsWell _ field starts
  · rw [Projection.resolve_of_blank _ kind blank, Projection.resolve_of_blank _ kind blank]
    exact ⟨rfl, rfl⟩
  · have declared' : fields ++ more ≠ [] := List.append_ne_nil_of_left_ne_nil declared more
    rw [Projection.resolve_of_named ⟨name, fields⟩ kind named declared,
      Projection.resolve_of_named ⟨longer, fields ++ more⟩ kind named declared']
    exact ⟨_, _, rfl, rfl, Projection.progress_append name longer fields more source kind⟩

/-- The path that led nowhere leads nowhere again, without its join being made twice. A path that
ends in a hop is not even begun, and the entangled fields go on from the first two of them. -/
theorem growth_of_collidingCalls :
    ((empty "Source" (some .left)).resolveAll collidingCalls).resolve "Second"
        "[RigTab:Id:Id].[_1:Id:Id].Value" =
      ⟨none, (empty "Source" (some .left)).resolveAll collidingCalls, []⟩ ∧
    (JoinPath.ofText "[Fresh:Id:Id].[RigTab:Id:Id]").endsInColumn = false ∧
    ((empty "Source" (some .left)).resolveAll collidingCalls).resolve "Fourth"
        "[Fresh:Id:Id].[RigTab:Id:Id]" =
      ⟨none, (empty "Source" (some .left)).resolveAll collidingCalls, []⟩ ∧
    Text.allBlank "Source" = false ∧ Projection.entangled.fields.take 2 ≠ [] ∧
    ∃ selection whole,
      (Projection.resolve ⟨"Entangled", Projection.entangled.fields.take 2⟩ "Source"
        (some .left)).1 = some selection ∧
      (Projection.entangled.resolve "Source" (some .left)).1 = some whole ∧
      selection.columns <+: whole.columns ∧ selection.joins <+: whole.joins := by
  have ends : (JoinPath.ofText "[Fresh:Id:Id].[RigTab:Id:Id]").endsInColumn = false := by
    decide +kernel
  have nowhere : (((empty "Source" (some .left)).resolveAll (collidingCalls.take 1)).resolve
      "Second" "[RigTab:Id:Id].[_1:Id:Id].Value").answer = none := by decide +kernel
  have named : Text.allBlank "Source" = false := by decide
  have declared : Projection.entangled.fields.take 2 ≠ [] := by decide
  obtain ⟨_, rejected, again, longer⟩ := growth_of_resolveAll "Source" (some .left)
  have second := again (collidingCalls.take 1) "Second" "[RigTab:Id:Id].[_1:Id:Id].Value"
    (collidingCalls.drop 2)
  rw [nowhere] at second
  exact ⟨second, ends, rejected collidingCalls "Fourth" _ (.inl ends), named, declared,
    (longer "Entangled" "Entangled" _ (Projection.entangled.fields.drop 2) declared).2 named⟩

end JoinGraph

end PathQuery
