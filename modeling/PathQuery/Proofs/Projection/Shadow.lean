/-
**Source tables that are spelled like an alias.**

Aliases are kept apart from each other, but not from the source table. If the source table is
spelled like an alias that is handed out, the two share one name in the statement, and what stands
behind that name is not said.

* `Alias.mem_names_iff`: the aliases of joins are their stems with the numbers up to how many joins
  share the stem;
* `Projection.scoped_of_resolve`, `Selection.unambiguous_iff`: every qualifier names one table of a
  statement just when the source table is no alias;
* `Projection.shadowed_iff_spelled`: when that is, from the source table and the paths alone;
* `Projection.not_forall_unshadowed`: it is not always so.
-/

import PathQuery.Proofs.JoinGraph.Scope

namespace PathQuery

/-! ### Aliases -/

namespace Alias

variable {joins : List Join}

/-- **The aliases of joins** are their stems with numbers from one on, as many as share the stem. -/
theorem mem_names_iff (counted : Numbered joins) (name : String) :
    name ∈ joins.map (·.name) ↔
      ∃ stem number, name = numbered stem number ∧ 1 ≤ number ∧ number ≤ sharing stem joins := by
  constructor
  · intro listed
    obtain ⟨join, member, rfl⟩ := List.mem_map.mp listed
    obtain ⟨earlier, later, place⟩ := List.append_of_mem member
    obtain ⟨stem, stemmed, named⟩ := name_of_numbered counted place
    have itself : Join.hasStem stem join = true := by simp [Join.hasStem, stemmed]
    have more : sharing stem joins = sharing stem earlier + (sharing stem later + 1) := by
      rw [place, sharing, List.countP_append, List.countP_cons_of_pos itself]
      rfl
    exact ⟨stem, _, named, by omega, by omega⟩
  · rintro ⟨stem, number, rfl, least, most⟩
    have numbers : numbered stem number ∈
        (List.range' 1 (sharing stem joins)).map (numbered stem) :=
      List.mem_map_of_mem (List.mem_range'_1.mpr ⟨least, by omega⟩)
    rw [← names_of_hasStem counted stem] at numbers
    obtain ⟨join, among, named⟩ := List.mem_map.mp numbers
    exact List.mem_map.mpr ⟨join, (List.mem_filter.mp among).1, named⟩

end Alias

/-! ### Qualifiers -/

namespace Selection

/-- The names that the tables of a statement go by: the source table's own, and the aliases. -/
def references (selection : Selection) (source : String) : List String :=
  source :: selection.joins.map (·.name)

/-- What stands in front of the columns of a statement, in its select list and in its joins. -/
def qualifiers (selection : Selection) : List String :=
  selection.columns.map (·.table) ++
    selection.joins.flatMap fun join => [join.name, join.leftTable]

variable {selection : Selection} {source : String}

/-- Qualifiers are names of tables where every name is introduced before it is used. -/
theorem mem_references_of_qualifier (introduced : Scoped source selection.joins)
    (columns : ∀ column ∈ selection.columns, column.table ∈ selection.references source)
    {qualifier : String} (used : qualifier ∈ selection.qualifiers) :
    qualifier ∈ selection.references source := by
  rcases List.mem_append.mp used with ofColumn | ofJoin
  · obtain ⟨column, member, rfl⟩ := List.mem_map.mp ofColumn
    exact columns column member
  · obtain ⟨join, member, either⟩ := List.mem_flatMap.mp ofJoin
    obtain ⟨earlier, later, place⟩ := List.append_of_mem member
    simp only [List.mem_cons, List.not_mem_nil, or_false] at either
    rcases either with rfl | rfl
    · exact List.mem_cons_of_mem _ (List.mem_map_of_mem member)
    · refine List.cons_subset_cons source (List.map_subset _ ?_)
        (introduced.leftTables earlier join later place)
      rw [place]
      exact List.subset_append_left _ _

/-- **Every qualifier names one table just when the source table is no alias.** -/
theorem unambiguous_iff (introduced : Scoped source selection.joins)
    (columns : ∀ column ∈ selection.columns, column.table ∈ selection.references source) :
    (∀ qualifier ∈ selection.qualifiers, (selection.references source).count qualifier = 1) ↔
      source ∉ selection.joins.map (·.name) := by
  constructor
  · intro unambiguous clash
    -- The alias stands in front of a column of its own join.
    obtain ⟨join, member, same⟩ := List.mem_map.mp clash
    have used : source ∈ selection.qualifiers :=
      List.mem_append_right _ (List.mem_flatMap.mpr ⟨join, member, by simp [same]⟩)
    have once := unambiguous source used
    rw [references, List.count_cons_self] at once
    have again := List.count_pos_iff.mpr clash
    omega
  · intro apart qualifier used
    exact List.count_eq_one_of_mem (List.nodup_cons.mpr ⟨apart, introduced.names⟩)
      (mem_references_of_qualifier introduced columns used)

end Selection

/-! ### Projections -/

/-- Whether a hop leads to a table that is shortened to this stem. -/
def Hop.hasStem (stem segment : String) : Bool :=
  (Hop.parse? segment).any fun hop => stem? hop.rightTable == some stem

/-- The joins of a stem are those whose hops lead to its tables. -/
theorem JoinGraph.Records.sharing_eq_countP {graph : JoinGraph} {mentions : List Mention}
    (records : Records graph mentions) (stem : String) :
    Alias.sharing stem graph.joins =
      (graph.joins.map (·.segment)).countP (Hop.hasStem stem) := by
  rw [Alias.sharing, List.countP_map]
  refine List.countP_congr fun join member => ?_
  obtain ⟨hop, _, left, reads, _, _, made⟩ := records.made join member
  have parsed := (Hop.joinable?_eq_some_iff.mp reads).1
  have table : join.rightTable = hop.rightTable := by rw [made]; rfl
  simp [Join.hasStem, Hop.hasStem, parsed, table]

namespace Projection

/-- How many hops lead to tables with this stem, of those that the paths attempt, each once. -/
def hopsTo (projection : Projection) (stem : String) : Nat :=
  (projection.paths.flatMap fun path =>
    (JoinPath.ofText path).attemptedHops).eraseDups.countP (Hop.hasStem stem)

variable {projection : Projection} {source : String} {kind : Option JoinKind}
  {selection : Selection} {events : List Event}

theorem scoped_of_resolve
    (resolved : projection.resolve source kind = (some selection, events)) :
    Scoped source selection.joins ∧
      ∀ column ∈ selection.columns, column.table ∈ selection.references source := by
  obtain rfl := selection_of_resolve resolved
  constructor
  · rw [progress_graph]
    exact JoinGraph.scoped_resolveAll source kind _
  · have there := projection.mem_tables_progress source kind
    rwa [JoinGraph.tables, progress_source] at there

/-- There is a join for every hop, so the joins of a stem are the hops to its tables. -/
theorem sharing_of_resolve
    (resolved : projection.resolve source kind = (some selection, events)) (stem : String) :
    Alias.sharing stem selection.joins = projection.hopsTo stem := by
  obtain rfl := selection_of_resolve resolved
  have records := projection.progress_records source kind
  have segments := records.segments
  rw [map_hop_mentionsOf] at segments
  rw [hopsTo, ← segments, records.sharing_eq_countP]

/-- **When an alias shadows the source table.** A join goes by the name of the source table just
when that is spelled as a stem with a number, and the number is not above the number of hops to
tables with the stem. Otherwise, and only then, every qualifier of the statement names exactly one
of its tables. -/
theorem shadowed_iff_spelled
    (resolved : projection.resolve source kind = (some selection, events)) :
    (source ∈ selection.joins.map (·.name) ↔
      ∃ stem number, source = stem ++ toString number ∧ 1 ≤ number ∧
        number ≤ projection.hopsTo stem) ∧
    ((∀ qualifier ∈ selection.qualifiers, (selection.references source).count qualifier = 1) ↔
      source ∉ selection.joins.map (·.name)) := by
  obtain ⟨introduced, columns⟩ := scoped_of_resolve resolved
  refine ⟨?_, Selection.unambiguous_iff introduced columns⟩
  have counted : Alias.Numbered selection.joins := by
    rw [selection_of_resolve resolved, progress_graph]
    exact JoinGraph.numbered_resolveAll source kind _
  rw [Alias.mem_names_iff counted]
  simp only [sharing_of_resolve resolved]
  rfl

/-! ### A source table that is spelled like an alias -/

/-- One hop, to a table with the stem `RigTab`. -/
def masking : Projection :=
  ⟨"Masking", [⟨"Value", some "[RightTable:RightCol:LeftCol].Value"⟩]⟩

/-- From `RigTab1`, the join goes by the name of its left table. -/
def masked : Selection :=
  ⟨[⟨"RigTab1", "Value", some "Value"⟩],
    [⟨some .left, "RigTab1", "LeftCol", "RightTable", "RightCol", "RigTab1",
      "[RightTable:RightCol:LeftCol]"⟩]⟩

theorem resolve_masking :
    masking.resolve "RigTab1" (some .left) =
      (some masked, [.aliasAllocated "[RightTable:RightCol:LeftCol]" "RigTab1" "RigTab1"]) := by
  decide +kernel

/-- The source table is the first alias of the one stem, so it is shadowed. -/
theorem shadowed_of_masking :
    masking.hopsTo "RigTab" = 1 ∧ "RigTab1" ∈ masked.joins.map (·.name) ∧
      ¬ ∀ qualifier ∈ masked.qualifiers, (masked.references "RigTab1").count qualifier = 1 := by
  have hops : masking.hopsTo "RigTab" = 1 := by decide +kernel
  obtain ⟨shadowed, unambiguous⟩ := shadowed_iff_spelled resolve_masking
  have clash := shadowed.mpr ⟨"RigTab", 1, by decide, Nat.le_refl 1, by rw [hops]⟩
  exact ⟨hops, clash, fun once => unambiguous.mp once clash⟩

/-- **Not every source table is told from the aliases.** -/
theorem not_forall_unshadowed :
    ¬ ∀ (projection : Projection) (source : String) (kind : Option JoinKind)
      (selection : Selection) (events : List Event),
        projection.resolve source kind = (some selection, events) →
        (∀ join ∈ selection.joins, join.name ≠ source) ∧
          ∀ qualifier ∈ selection.qualifiers,
            (selection.references source).count qualifier = 1 := by
  intro all
  have apart := (all masking "RigTab1" (some .left) masked _ resolve_masking).1
  exact apart _ List.mem_cons_self rfl

end Projection

end PathQuery
