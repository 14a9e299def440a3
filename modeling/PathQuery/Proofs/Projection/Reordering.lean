/-
**The order of fields matters to numbers and left tables only.**

Two projections with the same fields in different orders attempt the same hops. So they have the
same joins, up to what depends on which path came first: the number of an alias and the table that a
join stands on.

* `Join.SameHop`, `Field.SameColumn`: joins and columns that are alike but for that;
* `Projection.perm_segments`, `Projection.perm_names`: the hops that are joined and the aliases that
  are given, as the numbers of a stem count the hops to its tables;
* `Projection.perm_dropped`: the fields without a column;
* `Projection.alike_of_perm`: all of this, and the columns of every field that has one.
-/

import PathQuery.Proofs.Projection.Shadow
import PathQuery.Proofs.Projection.Columns

namespace PathQuery

/-! ### Joins and columns that are alike -/

/-- **Joins that are alike** but for their left tables and their aliases. -/
structure Join.SameHop (first second : Join) : Prop where
  segment : first.segment = second.segment
  rightTable : first.rightTable = second.rightTable
  rightColumn : first.rightColumn = second.rightColumn
  leftColumn : first.leftColumn = second.leftColumn
  kind : first.kind = second.kind

namespace Field

/-- The hops of a field's path. A field without a path has none. -/
def hops (field : Field) : List String :=
  (field.path.map fun path => (JoinPath.ofText path).hops).getD []

/-- **Columns of one field**, each of joins of its own. -/
inductive SameColumn (source : String) (joins others : List Join) (field : Field) :
    Column → Column → Prop
  /-- Without a hop both are of the source table. -/
  | direct (name : String) (label : Option String) (short : field.hops = []) :
      SameColumn source joins others field ⟨source, name, label⟩ ⟨source, name, label⟩
  /-- Otherwise they are of the two joins for the last hop. -/
  | joined (name : String) (label : Option String) {join other : Join} (member : join ∈ joins)
      (listed : other ∈ others) (last : field.hops.getLast? = some join.segment)
      (alike : join.SameHop other) :
      SameColumn source joins others field ⟨join.name, name, label⟩ ⟨other.name, name, label⟩

end Field

/-- Joins that were made for one hop are alike. -/
theorem JoinGraph.Records.sameHop {graph later : JoinGraph} {mentions more : List Mention}
    (records : Records graph mentions) (records' : Records later more)
    (kinds : graph.kind = later.kind) {join other : Join} (member : join ∈ graph.joins)
    (listed : other ∈ later.joins) (segment : join.segment = other.segment) :
    join.SameHop other := by
  obtain ⟨hop, _, left, reads, _, _, made⟩ := records.made join member
  obtain ⟨hop', _, left', reads', _, _, made'⟩ := records'.made other listed
  rw [segment, reads'] at reads
  cases reads
  constructor
  case segment => exact segment
  case rightTable => rw [made, made']; rfl
  case rightColumn => rw [made, made']; rfl
  case leftColumn => rw [made, made']; rfl
  case kind => rw [made, made']; exact kinds

/-- **Two columns that a field selects are alike**, if joins for one hop are. -/
theorem Field.sameColumn_of_selects {source : String} {joins others : List Join} {field : Field}
    {column column' : Column} (selects : field.Selects source joins column)
    (selects' : field.Selects source others column')
    (alike : ∀ join ∈ joins, ∀ other ∈ others, join.segment = other.segment →
      join.SameHop other) :
    field.SameColumn source joins others column column' := by
  cases selects with
  | plain name =>
    cases selects'
    exact .direct name none rfl
  | direct name path short =>
    cases selects' with
    | direct => exact .direct _ _ short
    | joined _ _ _ last =>
      rw [short] at last
      cases last
  | @joined name path join member last =>
    cases selects' with
    | direct _ _ short =>
      rw [short] at last
      cases last
    | @joined _ _ other listed last' =>
      have same : join.segment = other.segment := Option.some.inj (last.symm.trans last')
      exact .joined _ _ member listed last (alike join member other listed same)

namespace Projection

/-- The fields of a projection that come to no column. -/
def dropped (projection : Projection) (source : String) (kind : Option JoinKind) : List Field :=
  ((projection.outcomes source kind).filter (·.2.isNone)).map (·.1)

theorem dropped_eq (projection : Projection) (source : String) (kind : Option JoinKind) :
    projection.dropped source kind = projection.fields.filter fun field => ¬ field.Survives := by
  unfold dropped
  rw [← projection.map_fst_outcomes source kind, List.filter_map]
  congr 1
  refine List.filter_congr fun outcome listed => ?_
  have kept := isSome_outcome_iff listed
  show outcome.2.isNone = decide (¬ outcome.1.Survives)
  rw [← Option.not_isSome, Bool.eq_iff_iff, decide_eq_true_iff, ← kept, Bool.not_eq_true',
    Bool.not_eq_true]

section Reordered

variable {first second : Projection} (reordered : first.fields.Perm second.fields)
  (source : String) (kind : Option JoinKind)

include reordered

theorem perm_dropped : (first.dropped source kind).Perm (second.dropped source kind) := by
  rw [dropped_eq, dropped_eq]
  exact reordered.filter _

/-- The paths attempt the same hops. -/
theorem mem_mentioned_iff (segment : String) :
    segment ∈ (mentionsOf first.paths).map (·.hop) ↔
      segment ∈ (mentionsOf second.paths).map (·.hop) := by
  have paths : first.paths.Perm second.paths := reordered.filterMap _
  rw [map_hop_mentionsOf, map_hop_mentionsOf]
  exact (paths.flatMap_right _).mem_iff

/-- **The same hops are joined.** -/
theorem perm_segments :
    ((first.progress source kind).graph.joins.map (·.segment)).Perm
      ((second.progress source kind).graph.joins.map (·.segment)) := by
  apply (List.perm_ext_iff_of_nodup (first.nodup_segments_progress source kind)
    (second.nodup_segments_progress source kind)).mpr
  intro segment
  rw [(first.progress_records source kind).mem_segments_iff,
    (second.progress_records source kind).mem_segments_iff, mem_mentioned_iff reordered]

/-- As many joins share a stem. -/
theorem sharing_reordered (stem : String) :
    Alias.sharing stem (first.progress source kind).graph.joins =
      Alias.sharing stem (second.progress source kind).graph.joins := by
  rw [(first.progress_records source kind).sharing_eq_countP,
    (second.progress_records source kind).sharing_eq_countP]
  exact (perm_segments reordered source kind).countP_eq _

/-- **The same aliases are given**, each once, though perhaps to other joins. -/
theorem perm_names :
    ((first.progress source kind).graph.joins.map (·.name)).Perm
      ((second.progress source kind).graph.joins.map (·.name)) := by
  have counted := first.numbered_progress source kind
  have counted' := second.numbered_progress source kind
  apply (List.perm_ext_iff_of_nodup (Alias.nodup_names counted)
    (Alias.nodup_names counted')).mpr
  intro name
  rw [Alias.mem_names_iff counted, Alias.mem_names_iff counted']
  simp only [sharing_reordered reordered]

/-- **A field that comes to a column comes to one that is alike** in the other order. -/
theorem sameColumn_of_perm {field : Field} {column : Column}
    (listed : (field, some column) ∈ first.outcomes source kind) :
    (∃ column', (field, some column') ∈ second.outcomes source kind) ∧
      ∀ column', (field, some column') ∈ second.outcomes source kind →
        field.SameColumn source (first.progress source kind).graph.joins
          (second.progress source kind).graph.joins column column' := by
  constructor
  · -- The field has its turn in the other order as well, and survives it.
    have declared : field ∈ first.fields := by
      rw [← first.map_fst_outcomes source kind]
      exact List.mem_map_of_mem listed
    have again := reordered.mem_iff.mp declared
    rw [← second.map_fst_outcomes source kind] at again
    obtain ⟨⟨_, answer⟩, turn, rfl⟩ := List.mem_map.mp again
    have survives := (isSome_outcome_iff listed).mp rfl
    have kept := (isSome_outcome_iff turn).mpr survives
    obtain ⟨column', rfl⟩ := Option.isSome_iff_exists.mp kept
    exact ⟨column', turn⟩
  · intro column' turn
    apply Field.sameColumn_of_selects (selects_of_outcome listed) (selects_of_outcome turn)
    intro join member other among same
    have kinds : (first.progress source kind).graph.kind =
        (second.progress source kind).graph.kind := by rw [progress_kind, progress_kind]
    exact JoinGraph.Records.sameHop (first.progress_records source kind)
      (second.progress_records source kind) kinds member among same

/-- **Reordered, fields keep all but the numbers and the left tables of their joins.** The same
fields have no column, as many joins are made, for the same hops, and the same aliases are given.
The columns are those that the fields came to, and every field that came to one comes to one that is
alike: of the source table both times, or of two joins that are alike but for their left tables and
their aliases. -/
theorem alike_of_perm (named : Text.allBlank source = false) (declared : first.fields ≠ []) :
    ∃ selection other, (first.resolve source kind).1 = some selection ∧
      (second.resolve source kind).1 = some other ∧
      selection.columns = (first.outcomes source kind).filterMap (·.2) ∧
      other.columns = (second.outcomes source kind).filterMap (·.2) ∧
      (first.dropped source kind).Perm (second.dropped source kind) ∧
      selection.joins.length = other.joins.length ∧
      (selection.joins.map (·.segment)).Perm (other.joins.map (·.segment)) ∧
      (selection.joins.map (·.name)).Perm (other.joins.map (·.name)) ∧
      ∀ field column, (field, some column) ∈ first.outcomes source kind →
        (∃ column', (field, some column') ∈ second.outcomes source kind) ∧
          ∀ column', (field, some column') ∈ second.outcomes source kind →
            field.SameColumn source selection.joins other.joins column column' := by
  have declared' : second.fields ≠ [] := by
    intro none
    rw [none] at reordered
    exact declared reordered.eq_nil
  have segments := perm_segments reordered source kind
  refine ⟨_, _, by rw [resolve_of_named first kind named declared],
    by rw [resolve_of_named second kind named declared'], columns_progress _ _ _,
    columns_progress _ _ _, perm_dropped reordered source kind, ?_, segments,
    perm_names reordered source kind,
    fun field column listed => sameColumn_of_perm reordered source kind listed⟩
  rw [← List.length_map, segments.length_eq, List.length_map]

end Reordered

/-- Two hops to tables with one stem, and a broken path. -/
def colliding : Projection :=
  ⟨"Colliding", [⟨"First", some "[RightTable:Id:Id].Value"⟩,
    ⟨"Second", some "[RigidTabs:Id:Id].Value"⟩, ⟨"Lost", some "[_1:Id:Id].Value"⟩]⟩

/-- The same fields in the opposite order. -/
def backwards : Projection := ⟨"Backwards", colliding.fields.reverse⟩

/-- In the opposite order, the two hops have each other's aliases. -/
theorem alike_of_colliding :
    Text.allBlank "Source" = false ∧ colliding.fields ≠ [] ∧
      colliding.fields.Perm backwards.fields ∧
      ∃ selection other, (colliding.resolve "Source" (some .left)).1 = some selection ∧
        (backwards.resolve "Source" (some .left)).1 = some other ∧
        selection.joins.map (fun join => (join.segment, join.name)) =
          [("[RightTable:Id:Id]", "RigTab1"), ("[RigidTabs:Id:Id]", "RigTab2")] ∧
        other.joins.map (fun join => (join.segment, join.name)) =
          [("[RigidTabs:Id:Id]", "RigTab1"), ("[RightTable:Id:Id]", "RigTab2")] ∧
        selection.joins.length = other.joins.length ∧
        (selection.joins.map (·.name)).Perm (other.joins.map (·.name)) ∧
        Field.SameColumn "Source" selection.joins other.joins
          ⟨"First", some "[RightTable:Id:Id].Value"⟩ ⟨"RigTab1", "Value", some "First"⟩
          ⟨"RigTab2", "Value", some "First"⟩ := by
  have named : Text.allBlank "Source" = false := by decide
  have declared : colliding.fields ≠ [] := by decide
  have reordered : colliding.fields.Perm backwards.fields := (List.reverse_perm _).symm
  obtain ⟨selection, other, resolved, resolved', _, _, _, joins, _, names, alike⟩ :=
    alike_of_perm reordered "Source" (some .left) named declared
  have made : ((colliding.resolve "Source" (some .left)).1.map fun selection =>
      selection.joins.map fun join => (join.segment, join.name)) =
        some [("[RightTable:Id:Id]", "RigTab1"), ("[RigidTabs:Id:Id]", "RigTab2")] := by
    decide +kernel
  have made' : ((backwards.resolve "Source" (some .left)).1.map fun selection =>
      selection.joins.map fun join => (join.segment, join.name)) =
        some [("[RigidTabs:Id:Id]", "RigTab1"), ("[RightTable:Id:Id]", "RigTab2")] := by
    decide +kernel
  have turn : (⟨"First", some "[RightTable:Id:Id].Value"⟩,
      some ⟨"RigTab1", "Value", some "First"⟩) ∈
        colliding.outcomes "Source" (some .left) := by decide +kernel
  have turn' : (⟨"First", some "[RightTable:Id:Id].Value"⟩,
      some ⟨"RigTab2", "Value", some "First"⟩) ∈
        backwards.outcomes "Source" (some .left) := by decide +kernel
  rw [resolved] at made
  rw [resolved'] at made'
  exact ⟨named, declared, reordered, selection, other, resolved, resolved', Option.some.inj made,
    Option.some.inj made', joins, names, (alike _ _ turn).2 _ turn'⟩

end Projection

end PathQuery
