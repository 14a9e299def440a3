/-
**The events of a projection tell what became of its fields.**

When the turn of a field comes, its path may add joins, and it comes to a column or to none. The
events say just that, field by field: one for every join that the field added, and a warning if it
came to no column.

* `Turn.events`: what is told of a turn;
* `Field.events_advance`: one more field is told of by the events of its turn;
* `Projection.events_progress`: so the events of a projection are those of its turns, in order;
* `Projection.events_of_turns`: read over the whole, they tell of the joins that are there in the
  end, each once and in order, and of as many drops as there are fields without a column.
-/

import PathQuery.Proofs.JoinGraph.Growth

namespace PathQuery

/-- What came of the turn of a field: the joins that it added, and its column if it has one. -/
structure Turn where
  field : Field
  added : List Join
  column : Option Column

/-- The events of a turn: one for every join that was added, and a warning if there is no
column. -/
def Turn.events (projection : String) (turn : Turn) : List Event :=
  turn.added.map Join.allocation ++
    if turn.column.isNone then
      [.fieldDropped projection turn.field.name (turn.field.path.getD "")]
    else []

/-- The hop, the left table and the alias of which an event tells that they were joined. -/
def Event.allocation? : Event → Option (String × String × String)
  | .aliasAllocated segment leftTable name => some (segment, leftTable, name)
  | _ => none

/-- Whether an event is a warning. -/
def Event.isWarning (event : Event) : Bool := event.level == .warn

/-! ### Turns -/

/-- The turn of a field, while this is the graph. -/
def Field.turn (field : Field) (graph : JoinGraph) : Turn where
  field := field
  added := (field.resolve graph).graph.joins.drop graph.joins.length
  column := (field.resolve graph).answer

namespace Projection

/-- The turns of fields that are resolved one after the other. -/
def turnsFrom (graph : JoinGraph) : List Field → List Turn
  | [] => []
  | field :: rest => field.turn graph :: turnsFrom (field.resolve graph).graph rest

/-- The turns of the fields of a projection. -/
def turns (projection : Projection) (source : String) (kind : Option JoinKind) : List Turn :=
  turnsFrom (.empty source kind) projection.fields

end Projection

/-! ### One field -/

namespace Field

/-- **A field adds the joins of its turn.** -/
theorem resolve_adds (field : Field) (graph : JoinGraph) :
    JoinGraph.Adds graph (field.turn graph).added (field.resolve graph) := by
  have some : ∃ added, JoinGraph.Adds graph added (field.resolve graph) := by
    unfold resolve
    split
    · exact ⟨[], graph.adds_nil _⟩
    · exact graph.resolve_adds _ _
  obtain ⟨added, adds⟩ := some
  have same : (field.turn graph).added = added := by
    show (field.resolve graph).graph.joins.drop graph.joins.length = added
    rw [adds.graph, JoinGraph.joins_extend, List.drop_left]
  rwa [same]

/-- **One more field is told of by the events of its turn.** -/
theorem events_advance (projection : String) (progress : Progress) (field : Field) :
    (advance projection progress field).events =
      progress.events ++ (field.turn progress.graph).events projection := by
  have told := (field.resolve_adds progress.graph).events
  have came : (field.turn progress.graph).column = (field.resolve progress.graph).answer := rfl
  unfold Turn.events
  rw [came, ← told]
  cases answer : (field.resolve progress.graph).answer with
  | none =>
    simp only [advance, answer]
    exact List.append_assoc _ _ _
  | some column =>
    simp only [advance, answer]
    simp

/-- Without a path there always is a column. -/
theorem path_of_turn {field : Field} {graph : JoinGraph} (dropped : (field.turn graph).column = none) :
    ∃ path, field.path = some path := by
  cases path : field.path with
  | none => simp [turn, resolve, path] at dropped
  | some text => exact ⟨text, rfl⟩

end Field

/-! ### All fields -/

namespace Projection

theorem events_foldl_advance (projection : String) (fields : List Field) (progress : Progress) :
    (fields.foldl (Field.advance projection) progress).events =
      progress.events ++ (turnsFrom progress.graph fields).flatMap (Turn.events projection) := by
  induction fields generalizing progress with
  | nil => simp [turnsFrom]
  | cons field rest ih =>
    rw [List.foldl_cons, ih, graph_advance, Field.events_advance, turnsFrom, List.flatMap_cons,
      List.append_assoc]

/-- **The events of a projection are those of its turns**, in declared order. -/
theorem events_progress (projection : Projection) (source : String) (kind : Option JoinKind) :
    (projection.progress source kind).events =
      (projection.turns source kind).flatMap (Turn.events projection.name) := by
  unfold progress
  rw [events_foldl_advance, List.nil_append]
  rfl

theorem map_field_turnsFrom (graph : JoinGraph) (fields : List Field) :
    (turnsFrom graph fields).map (·.field) = fields := by
  induction fields generalizing graph with
  | nil => rfl
  | cons field rest ih =>
    rw [turnsFrom, List.map_cons, ih]
    rfl

theorem take_turnsFrom (graph : JoinGraph) (fields : List Field) (number : Nat) :
    (turnsFrom graph fields).take number = turnsFrom graph (fields.take number) := by
  induction fields generalizing graph number with
  | nil => simp [turnsFrom]
  | cons field rest ih =>
    cases number with
    | zero => rfl
    | succ number => rw [turnsFrom, List.take_succ_cons, List.take_succ_cons, turnsFrom, ih]

/-- **The joins of fields are those of their turns**, behind the ones that were there. -/
theorem joins_turnsFrom (graph : JoinGraph) (fields : List Field) :
    (graph.resolveAll (calls fields)).joins =
      graph.joins ++ (turnsFrom graph fields).flatMap (·.added) := by
  induction fields generalizing graph with
  | nil => simp [turnsFrom, calls, JoinGraph.resolveAll]
  | cons field rest ih =>
    rw [resolveAll_calls_cons, ih, turnsFrom, List.flatMap_cons, ← List.append_assoc]
    congr 1
    rw [(field.resolve_adds graph).graph, JoinGraph.joins_extend]

/-- The columns of fields are those of their turns. -/
theorem filterMap_column_turnsFrom (graph : JoinGraph) (fields : List Field) :
    (turnsFrom graph fields).filterMap (·.column) = (outcomesFrom graph fields).filterMap (·.2) := by
  induction fields generalizing graph with
  | nil => rfl
  | cons field rest ih =>
    rw [turnsFrom, outcomesFrom, List.filterMap_cons, List.filterMap_cons, ih]
    rfl

theorem path_of_mem_turnsFrom {fields : List Field} {graph : JoinGraph} {turn : Turn}
    (member : turn ∈ turnsFrom graph fields) (dropped : turn.column = none) :
    ∃ path, turn.field.path = some path := by
  induction fields generalizing graph with
  | nil => cases member
  | cons field rest ih =>
    rcases List.mem_cons.mp member with rfl | later
    · exact Field.path_of_turn dropped
    · exact ih later

end Projection

/-! ### Read over the whole -/

namespace Turn

variable (projection : String)

theorem allocations_events (turn : Turn) :
    (turn.events projection).filterMap Event.allocation? =
      turn.added.map fun join => (join.segment, join.leftTable, join.name) := by
  have told : (turn.added.map Join.allocation).filterMap Event.allocation? =
      turn.added.map fun join => (join.segment, join.leftTable, join.name) := by
    rw [List.filterMap_map, ← List.filterMap_eq_map]
    rfl
  unfold events
  rw [List.filterMap_append, told]
  split <;> simp [Event.allocation?]

theorem warnings_events (turn : Turn) :
    turn.column.toList.length + (turn.events projection).countP Event.isWarning = 1 := by
  have silent : (turn.added.map Join.allocation).countP Event.isWarning = 0 := by
    rw [List.countP_map, List.countP_eq_zero]
    intro join _
    exact Bool.false_ne_true
  unfold events
  rw [List.countP_append, silent]
  cases turn.column <;> rfl

/-- The allocations that are told of are those of the joins that were added, in order. -/
theorem allocations_flatMap_events (turns : List Turn) :
    (turns.flatMap (events projection)).filterMap Event.allocation? =
      (turns.flatMap (·.added)).map fun join => (join.segment, join.leftTable, join.name) := by
  rw [List.filterMap_flatMap, List.map_flatMap]
  congr 1
  funext turn
  exact turn.allocations_events projection

/-- A turn comes to a column or is warned of. -/
theorem warnings_flatMap_events (turns : List Turn) :
    (turns.filterMap (·.column)).length +
      (turns.flatMap (events projection)).countP Event.isWarning = turns.length := by
  induction turns with
  | nil => rfl
  | cons turn rest ih =>
    have first := turn.warnings_events projection
    have here : ((turn :: rest).filterMap (·.column)).length =
        turn.column.toList.length + (rest.filterMap (·.column)).length := by
      cases column : turn.column with
      | none => simp [column]
      | some found => simp [column, Nat.add_comm]
    rw [List.flatMap_cons, List.countP_append, List.length_cons, here]
    omega

end Turn

namespace Projection

/-- **The events of a selection tell just what happened.** They are those of the turns of its
fields, in declared order: one for every join that a field added, and then a warning if the field
has no column, with the projection, the field and its path. The joins that fields added are those
of the selection, which after any number of fields are those of the turns so far, and the columns
are those that the turns came to. Over the whole, the joins that are told of are those of the
selection, in order, and there are as many warnings as fields without a column. Where nothing is
selected, nothing is told. -/
theorem events_of_turns (projection : Projection) (source : String) (kind : Option JoinKind) :
    (Text.allBlank source = false → projection.fields ≠ [] →
      ∃ selection events, projection.resolve source kind = (some selection, events) ∧
        events = (projection.turns source kind).flatMap (Turn.events projection.name) ∧
        (projection.turns source kind).map (·.field) = projection.fields ∧
        (projection.turns source kind).filterMap (·.column) = selection.columns ∧
        (projection.turns source kind).flatMap (·.added) = selection.joins ∧
        (∀ number, ((projection.turns source kind).take number).flatMap (·.added) =
          ((JoinGraph.empty source kind).resolveAll
            (calls (projection.fields.take number))).joins) ∧
        (∀ turn ∈ projection.turns source kind, turn.column = none →
          ∃ path, turn.field.path = some path) ∧
        events.filterMap Event.allocation? =
          selection.joins.map (fun join => (join.segment, join.leftTable, join.name)) ∧
        selection.columns.length + events.countP Event.isWarning = projection.fields.length) ∧
    ∀ events, projection.resolve source kind = (none, events) → events = [] := by
  constructor
  · intro named declared
    have fields := map_field_turnsFrom (.empty source kind) projection.fields
    have columns : (projection.turns source kind).filterMap (·.column) =
        (projection.progress source kind).columns := by
      rw [columns_progress]
      exact filterMap_column_turnsFrom _ _
    have joins : (projection.turns source kind).flatMap (·.added) =
        (projection.progress source kind).graph.joins := by
      rw [progress_graph, joins_turnsFrom]
      exact (List.nil_append _).symm
    refine ⟨_, _, resolve_of_named projection kind named declared,
      projection.events_progress source kind, fields, columns, joins, fun number => ?_,
      fun turn member dropped => path_of_mem_turnsFrom member dropped, ?_, ?_⟩
    · unfold turns
      rw [take_turnsFrom, joins_turnsFrom]
      exact (List.nil_append _).symm
    · rw [events_progress, Turn.allocations_flatMap_events, joins]
    · have counted := congrArg List.length fields
      rw [List.length_map] at counted
      rw [events_progress, ← columns, Turn.warnings_flatMap_events]
      exact counted
  · intro events nothing
    unfold resolve at nothing
    split at nothing
    · cases nothing
      rfl
    · cases nothing

/-- The broken path is told of by its join and its warning, the path that comes back to a hop by the
two joins that are new. -/
theorem events_of_entangled :
    Text.allBlank "Source" = false ∧ entangled.fields ≠ [] ∧
      (∃ selection events, entangled.resolve "Source" (some .left) = (some selection, events) ∧
        events =
          [.aliasAllocated "[RightTable:RightCol:LeftCol]" "Source" "RigTab1",
            .fieldDropped "Entangled" "Broken" "[RightTable:RightCol:LeftCol].[_1:Id:Id].Value",
            .aliasAllocated "[A:Id:Id]" "Source" "A1", .aliasAllocated "[B:Id:Id]" "A1" "B1",
            .fieldDropped "Entangled" "Lone" "[C:Id:Id].[D:Id:Id]"] ∧
        selection.columns.length + events.countP Event.isWarning = 4) ∧
      ∃ events, entangled.resolve " " (some .left) = (none, events) ∧ events = [] := by
  have named : Text.allBlank "Source" = false := by decide
  have declared : entangled.fields ≠ [] := by decide
  have told : (entangled.turns "Source" (some .left)).flatMap (Turn.events "Entangled") =
      [.aliasAllocated "[RightTable:RightCol:LeftCol]" "Source" "RigTab1",
        .fieldDropped "Entangled" "Broken" "[RightTable:RightCol:LeftCol].[_1:Id:Id].Value",
        .aliasAllocated "[A:Id:Id]" "Source" "A1", .aliasAllocated "[B:Id:Id]" "A1" "B1",
        .fieldDropped "Entangled" "Lone" "[C:Id:Id].[D:Id:Id]"] := by decide +kernel
  obtain ⟨selection, events, resolved, turns, _, _, _, _, _, _, counted⟩ :=
    (events_of_turns entangled "Source" (some .left)).1 named declared
  have nothing : entangled.resolve " " (some .left) = (none, []) :=
    entangled.resolve_of_blank _ (by decide)
  exact ⟨named, declared, ⟨selection, events, resolved, turns.trans told, counted⟩, _, nothing,
    (events_of_turns entangled " " (some .left)).2 _ nothing⟩

end Projection

end PathQuery
