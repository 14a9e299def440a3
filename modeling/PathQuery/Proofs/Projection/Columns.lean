/-
**The columns of a projection.**

Whether a field has a column is up to its own path. A graph can know a hop without reading it, but
it never knows one that cannot be joined, so it neither helps a path nor stands in its way:

* `JoinGraph.isSome_resolve_iff`: a path has a column just when it is usable, whatever was resolved
  before;
* `Field.Selects`: the column of a field, from the joins that are there;
* `Projection.columns_of_survivors`: the columns of a selection are those of the fields without a
  path or with a usable one, in declared order.
-/

import PathQuery.Proofs.JoinGraph.Scope
import PathQuery.Proofs.Projection.Chain

namespace PathQuery

/-! ### Fields -/

namespace Field

/-- A field survives if it has no path, or a usable one. -/
def Survives (field : Field) : Prop := ∀ path ∈ field.path, (JoinPath.ofText path).Usable

instance (field : Field) : Decidable field.Survives := by
  unfold Survives
  exact inferInstance

/-- **The column that a field selects**, where these joins are there. -/
inductive Selects (source : String) (joins : List Join) : Field → Column → Prop
  /-- Without a path it is a column of the source table, under its own name. -/
  | plain (name : String) : Selects source joins ⟨name, none⟩ (.plain source name)
  /-- A path without hops stays at the source table. -/
  | direct (name path : String) (short : (JoinPath.ofText path).hops = []) :
      Selects source joins ⟨name, some path⟩ ⟨source, (JoinPath.ofText path).column, some name⟩
  /-- Any other path leads to the one join that was made for its last hop. -/
  | joined (name path : String) {join : Join} (member : join ∈ joins)
      (last : (JoinPath.ofText path).hops.getLast? = some join.segment)
      (only : ∀ other ∈ joins, other.segment = join.segment → other = join) :
      Selects source joins ⟨name, some path⟩
        ⟨join.name, (JoinPath.ofText path).column, some name⟩

theorem selects_of_standing? {source : String} {joins : List Join}
    (distinct : (joins.map (·.segment)).Nodup) (name : String) {path table : String}
    (standing : standing? source joins (JoinPath.ofText path).hops.getLast? = some table) :
    Selects source joins ⟨name, some path⟩
      ⟨table, (JoinPath.ofText path).column, some name⟩ := by
  cases last : (JoinPath.ofText path).hops.getLast? with
  | none =>
    rw [last] at standing
    cases standing
    exact .direct name path (List.getLast?_eq_none_iff.mp last)
  | some segment =>
    rw [last] at standing
    obtain ⟨join, found, rfl⟩ := Option.map_eq_some_iff.mp standing
    have member := List.mem_of_find?_eq_some found
    obtain rfl : join.segment = segment := by simpa using List.find?_some found
    exact .joined name path member last fun other listed same =>
      List.inj_on_of_nodup_map distinct listed member same

end Field

/-! ### Paths -/

namespace JoinGraph

theorem resolveAll_concat (graph : JoinGraph) (calls : List (String × String))
    (field path : String) :
    graph.resolveAll (calls ++ [(field, path)]) =
      ((graph.resolveAll calls).resolve field path).graph :=
  graph.resolveAll_append calls [(field, path)]

/-- **A path has a column just when it is usable.** Its hops are joined by then, so it stands
somewhere behind the last. -/
theorem isSome_resolve_iff {graph : JoinGraph} {mentions : List Mention}
    (records : Records graph mentions) (field path : String) :
    (graph.resolve field path).answer.isSome = true ↔ (JoinPath.ofText path).Usable := by
  rw [resolve_answer records]
  split
  · rename_i usable
    have mentioned : ∀ hop ∈ (JoinPath.ofText path).hops,
        hop ∈ (mentions ++ (JoinPath.ofText path).mentions).map (·.hop) := by
      intro hop member
      rw [List.map_append, JoinPath.mentions, map_hop_mentionsAfter,
        JoinPath.attemptedHops_of_usable usable]
      exact List.mem_append_right _ member
    obtain ⟨chain, spelled, found⟩ :=
      (resolve_records records field path).exists_chain mentioned
    have stands := Records.standing?_endTable found
    rw [spelled] at stands
    simp only [stands, Option.map_some, Option.isSome_some, usable]
  · rename_i useless
    simp only [Option.isSome_none, Bool.false_eq_true, useless]

/-- A column has the name that its path ends in and is labelled with its field. -/
theorem eq_of_resolve_eq_some {graph : JoinGraph} {field path : String} {column : Column}
    (answer : (graph.resolve field path).answer = some column) :
    column = ⟨column.table, (JoinPath.ofText path).column, some field⟩ := by
  simp only [resolve] at answer
  split at answer
  · obtain ⟨table, _, rfl⟩ := Option.map_eq_some_iff.mp answer
    rfl
  · cases answer

/-- **The column of a path is the one that its field selects** from the joins behind it. -/
theorem selects_of_resolve {source : String} {kind : Option JoinKind}
    (calls : List (String × String)) {field path : String} {column : Column}
    (answer : (((empty source kind).resolveAll calls).resolve field path).answer = some column) :
    Field.Selects source (((empty source kind).resolveAll calls).resolve field path).graph.joins
      ⟨field, some path⟩ column := by
  have records := resolveAll_records calls (.empty source kind)
  obtain ⟨_, stands⟩ := of_resolve_eq_some records answer
  have distinct := (scoped_resolveAll source kind (calls ++ [(field, path)])).segments
  rw [resolveAll_concat] at distinct
  rw [← resolveAll_concat, source_resolveAll, resolveAll_concat] at stands
  rw [eq_of_resolve_eq_some answer]
  exact Field.selects_of_standing? distinct field stands

end JoinGraph

/-! ### Projections -/

namespace Projection

theorem map_fst_outcomesFrom (graph : JoinGraph) (fields : List Field) :
    (outcomesFrom graph fields).map (·.1) = fields := by
  induction fields generalizing graph with
  | nil => rfl
  | cons field rest ih => rw [outcomesFrom, List.map_cons, ih]

variable (projection : Projection) (source : String) (kind : Option JoinKind)

/-- Every field has its turn, in declared order. -/
theorem map_fst_outcomes : (projection.outcomes source kind).map (·.1) = projection.fields :=
  map_fst_outcomesFrom _ _

/-- No hop is joined twice. -/
theorem nodup_segments_progress :
    ((projection.progress source kind).graph.joins.map (·.segment)).Nodup := by
  rw [progress_graph]
  exact (JoinGraph.scoped_resolveAll source kind _).segments

/-- The aliases of a projection are numbered stem by stem. -/
theorem numbered_progress :
    Alias.Numbered (projection.progress source kind).graph.joins := by
  rw [progress_graph]
  exact JoinGraph.numbered_resolveAll source kind _

variable {projection source kind}

/-- A field comes to a column just when it survives. -/
theorem isSome_outcome_iff {field : Field} {answer : Option Column}
    (listed : (field, answer) ∈ projection.outcomes source kind) :
    answer.isSome = true ↔ field.Survives := by
  obtain ⟨before, _, _, rfl⟩ := exists_of_mem_outcomesFrom listed
  obtain ⟨name, path⟩ := field
  cases path with
  | none => simp [Field.resolve, Field.Survives]
  | some path =>
    rw [Field.resolve, JoinGraph.isSome_resolve_iff (fields_records before source kind)]
    simp [Field.Survives]

/-- A field comes to the column that it selects from all joins. -/
theorem selects_of_outcome {field : Field} {column : Column}
    (listed : (field, some column) ∈ projection.outcomes source kind) :
    field.Selects source (projection.progress source kind).graph.joins column := by
  obtain ⟨before, _, _, answered⟩ := exists_of_mem_outcomesFrom listed
  obtain ⟨name, path⟩ := field
  cases path with
  | none =>
    cases answered
    rw [JoinGraph.source_resolveAll]
    exact .plain name
  | some path =>
    obtain ⟨_, _, stands⟩ := standing?_of_outcome listed rfl
    rw [JoinGraph.eq_of_resolve_eq_some answered]
    exact Field.selects_of_standing? (projection.nodup_segments_progress source kind) name stands

/-- Where each field comes to its column or to none, the columns are those of the fields that come
to one. -/
theorem forall₂_survivors {joins : List Join} {outcomes : List (Field × Option Column)}
    (kept : ∀ outcome ∈ outcomes, outcome.2.isSome = true ↔ outcome.1.Survives)
    (selects : ∀ field column, (field, some column) ∈ outcomes →
      field.Selects source joins column) :
    List.Forall₂ (Field.Selects source joins)
      ((outcomes.map (·.1)).filter fun field => field.Survives) (outcomes.filterMap (·.2)) := by
  induction outcomes with
  | nil => exact .nil
  | cons outcome rest ih =>
    obtain ⟨field, answer⟩ := outcome
    have first := kept _ List.mem_cons_self
    have others := ih (fun outcome member => kept outcome (List.mem_cons_of_mem _ member))
      fun field column member => selects field column (List.mem_cons_of_mem _ member)
    cases answer with
    | none =>
      have dropped : ¬ field.Survives := fun survives => by simpa using first.mpr survives
      simpa [dropped] using others
    | some column =>
      have survives : field.Survives := first.mp rfl
      rw [List.map_cons, List.filter_cons_of_pos (by simpa using survives)]
      exact .cons (selects field column List.mem_cons_self) others

/-- **Which fields have a column is up to their own paths, and their columns stay in order.**
After any run of paths, those that lead nowhere included, a path has a column just when it is
usable; the column is the one that its field selects. So the columns of a selection are those of
the fields without a path or with a usable one, in declared order. -/
theorem columns_of_survivors (source : String) (kind : Option JoinKind) :
    (∀ (calls : List (String × String)) (field path : String),
      ((((JoinGraph.empty source kind).resolveAll calls).resolve field path).answer.isSome = true ↔
        (JoinPath.ofText path).Usable) ∧
      ∀ column,
        (((JoinGraph.empty source kind).resolveAll calls).resolve field path).answer =
            some column →
          Field.Selects source
            (((JoinGraph.empty source kind).resolveAll calls).resolve field path).graph.joins
            ⟨field, some path⟩ column) ∧
    ∀ projection : Projection, Text.allBlank source = false → projection.fields ≠ [] →
      ∃ selection, (projection.resolve source kind).1 = some selection ∧
        List.Forall₂ (Field.Selects source selection.joins)
          (projection.fields.filter fun field => field.Survives) selection.columns := by
  constructor
  · intro calls field path
    have records := JoinGraph.resolveAll_records calls (.empty source kind)
    exact ⟨JoinGraph.isSome_resolve_iff records field path,
      fun column answer => JoinGraph.selects_of_resolve calls answer⟩
  · intro projection named declared
    refine ⟨_, by rw [resolve_of_named projection kind named declared], ?_⟩
    have fields : (projection.outcomes source kind).map (·.1) = projection.fields :=
      map_fst_outcomesFrom _ _
    rw [← fields, columns_progress]
    exact forall₂_survivors (fun outcome listed => isSome_outcome_iff listed)
      fun field column listed => selects_of_outcome listed

/-- A path uses the hop that a broken path left behind. Of the entangled fields, the one that comes
back to a hop and the one without a path survive. -/
theorem columns_of_entangled :
    Text.allBlank "Source" = false ∧ entangled.fields ≠ [] ∧
      (((JoinGraph.empty "Source" (some .left)).resolveAll
          [("Broken", "[RightTable:Id:Id].[_1:Id:Id].Value")]).resolve "Later"
          "[RightTable:Id:Id].Value").answer = some ⟨"RigTab1", "Value", some "Later"⟩ ∧
      (JoinPath.ofText "[RightTable:Id:Id].Value").Usable ∧
      Field.Selects "Source"
        [⟨some .left, "Source", "Id", "RightTable", "Id", "RigTab1", "[RightTable:Id:Id]"⟩]
        ⟨"Later", some "[RightTable:Id:Id].Value"⟩ ⟨"RigTab1", "Value", some "Later"⟩ ∧
      ∃ selection, (entangled.resolve "Source" (some .left)).1 = some selection ∧
        List.Forall₂ (Field.Selects "Source" selection.joins)
          [⟨"Loop", some "[A:Id:Id].[RightTable:RightCol:LeftCol].[A:Id:Id].[B:Id:Id].Value"⟩,
            ⟨"Id", none⟩] selection.columns := by
  have named : Text.allBlank "Source" = false := by decide
  have declared : entangled.fields ≠ [] := by decide
  have later : ((JoinGraph.empty "Source" (some .left)).resolveAll
      [("Broken", "[RightTable:Id:Id].[_1:Id:Id].Value")]).resolve "Later"
        "[RightTable:Id:Id].Value" =
      ⟨some ⟨"RigTab1", "Value", some "Later"⟩, ⟨"Source", some .left,
        [⟨some .left, "Source", "Id", "RightTable", "Id", "RigTab1", "[RightTable:Id:Id]"⟩]⟩,
        []⟩ := by decide +kernel
  have survivors : (entangled.fields.filter fun field => field.Survives) =
      [⟨"Loop", some "[A:Id:Id].[RightTable:RightCol:LeftCol].[A:Id:Id].[B:Id:Id].Value"⟩,
        ⟨"Id", none⟩] := by decide +kernel
  obtain ⟨paths, selections⟩ := columns_of_survivors "Source" (some .left)
  obtain ⟨usable, selects⟩ := paths [("Broken", "[RightTable:Id:Id].[_1:Id:Id].Value")] "Later"
    "[RightTable:Id:Id].Value"
  obtain ⟨selection, resolved, columns⟩ := selections entangled named declared
  rw [later] at usable selects
  rw [survivors] at columns
  exact ⟨named, declared, by rw [later], usable.mp rfl, selects _ rfl, selection, resolved,
    columns⟩

end Projection

end PathQuery
