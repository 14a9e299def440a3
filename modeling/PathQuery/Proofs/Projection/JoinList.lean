/-
**The joins of a projection.**

The graph of a projection records the mentions of all its paths (`progress_records`). So its joins
are known without resolving anything (`joins_first_mentions`): the hops that the paths attempt,
each where it was mentioned first, and behind the hop of that mention. Fields that are left out
count like the others.
-/

import PathQuery.Proofs.JoinGraph.Mention

namespace PathQuery.Projection

/-- The paths of the fields that have one, in declared order. -/
def paths (projection : Projection) : List String := projection.fields.filterMap (·.path)

theorem map_snd_calls (fields : List Field) :
    (calls fields).map (·.2) = fields.filterMap (·.path) := by
  simp only [calls, List.map_filterMap, Option.map_map]
  congr 1
  funext field
  cases field.path <;> rfl

theorem fields_records (fields : List Field) (source : String) (kind : Option JoinKind) :
    JoinGraph.Records ((JoinGraph.empty source kind).resolveAll (calls fields))
      (mentionsOf (fields.filterMap (·.path))) := by
  have recorded := JoinGraph.resolveAll_records (calls fields) (.empty source kind)
  rwa [map_snd_calls, List.nil_append] at recorded

/-- **The graph of a projection records the mentions of its paths.** -/
theorem progress_records (projection : Projection) (source : String) (kind : Option JoinKind) :
    JoinGraph.Records (projection.progress source kind).graph (mentionsOf projection.paths) := by
  rw [progress_graph]
  exact fields_records projection.fields source kind

theorem progress_source (projection : Projection) (source : String) (kind : Option JoinKind) :
    (projection.progress source kind).graph.source = source := by
  rw [progress_graph, JoinGraph.source_resolveAll]
  rfl

theorem progress_kind (projection : Projection) (source : String) (kind : Option JoinKind) :
    (projection.progress source kind).graph.kind = kind := by
  rw [progress_graph, JoinGraph.kind_resolveAll]
  rfl

/-- A named source table and a field are all that a selection takes. -/
theorem resolve_of_named (projection : Projection) {source : String} (kind : Option JoinKind)
    (named : Text.allBlank source = false) (declared : projection.fields ≠ []) :
    projection.resolve source kind =
      (some ⟨(projection.progress source kind).columns,
        (projection.progress source kind).graph.joins⟩,
        (projection.progress source kind).events) := by
  simp [resolve, named, declared]

/-- A selection holds what resolving the fields one after the other came to. -/
theorem selection_of_resolve {projection : Projection} {source : String} {kind : Option JoinKind}
    {selection : Selection} {events : List Event}
    (resolved : projection.resolve source kind = (some selection, events)) :
    selection = ⟨(projection.progress source kind).columns,
      (projection.progress source kind).graph.joins⟩ := by
  simp only [resolve] at resolved
  split at resolved
  · cases resolved
  · cases resolved
    rfl

/-- Every join of a selection has the kind that was asked for. -/
theorem kind_of_mem_joins {projection : Projection} {source : String} {kind : Option JoinKind}
    {selection : Selection} {events : List Event}
    (resolved : projection.resolve source kind = (some selection, events)) {join : Join}
    (member : join ∈ selection.joins) : join.kind = kind := by
  obtain rfl := selection_of_resolve resolved
  obtain ⟨hop, mention, left, _, _, _, made⟩ :=
    (projection.progress_records source kind).made join member
  rw [progress_kind] at made
  rw [made]
  rfl

/-- **The joins of a selection.** Their hops are those that the paths attempt, in declared order,
each once and where it is first. A join has the kind asked for, the names that its hop spells and
the left table of its first mention: the source table if a path starts there, else the alias that
the hop in front of it has in the end. -/
theorem joins_first_mentions (projection : Projection) {source : String} (kind : Option JoinKind)
    (named : Text.allBlank source = false) (declared : projection.fields ≠ []) :
    ∃ selection, (projection.resolve source kind).1 = some selection ∧
      selection.joins.map (·.segment) =
        (projection.paths.flatMap fun path => (JoinPath.ofText path).attemptedHops).eraseDups ∧
      ∀ join ∈ selection.joins, ∃ hop mention,
        Hop.parse? join.segment = some hop ∧ join.segment = hop.text ∧ join.kind = kind ∧
          join.rightTable = hop.rightTable ∧ join.rightColumn = hop.rightColumn ∧
          join.leftColumn = hop.leftColumn ∧
          firstMention? (mentionsOf projection.paths) join.segment = some mention ∧
          standing? source selection.joins mention.parent = some join.leftTable := by
  have records := projection.progress_records source kind
  refine ⟨_, by rw [resolve_of_named projection kind named declared], ?_, ?_⟩
  · rw [← map_hop_mentionsOf]
    exact records.segments
  · intro join member
    obtain ⟨hop, mention, left, reads, first, standing, made⟩ := records.made join member
    rw [progress_kind] at made
    rw [progress_source] at standing
    have parsed := (Hop.joinable?_eq_some_iff.mp reads).1
    obtain ⟨text, asked, table, column, tied, behind⟩ : join.segment = hop.text ∧
        join.kind = kind ∧ join.rightTable = hop.rightTable ∧
        join.rightColumn = hop.rightColumn ∧ join.leftColumn = hop.leftColumn ∧
        join.leftTable = left := by
      rw [made]
      exact ⟨rfl, rfl, rfl, rfl, rfl, rfl⟩
    exact ⟨hop, mention, parsed, text, asked, table, column, tied, first, behind ▸ standing⟩

/-- A path that fails behind its first hop, one that comes back to a hop, and one without a
column. -/
def entangled : Projection :=
  ⟨"Entangled", [⟨"Broken", some "[RightTable:RightCol:LeftCol].[_1:Id:Id].Value"⟩,
    ⟨"Loop", some "[A:Id:Id].[RightTable:RightCol:LeftCol].[A:Id:Id].[B:Id:Id].Value"⟩,
    ⟨"Id", none⟩, ⟨"Lone", some "[C:Id:Id].[D:Id:Id]"⟩]⟩

/-- The first hop is joined onto the source table, and the one behind the second mention of
`[A:Id:Id]` onto the join of the first mention. -/
theorem joins_of_entangled :
    Text.allBlank "Source" = false ∧ entangled.fields ≠ [] ∧
      ∃ selection, (entangled.resolve "Source" (some .left)).1 = some selection ∧
        selection.joins.map (·.segment) =
          ["[RightTable:RightCol:LeftCol]", "[A:Id:Id]", "[B:Id:Id]"] ∧
        (∀ join ∈ selection.joins, join.segment = "[RightTable:RightCol:LeftCol]" →
          join.kind = some .left ∧ join.leftTable = "Source" ∧ join.leftColumn = "LeftCol" ∧
            join.rightTable = "RightTable" ∧ join.rightColumn = "RightCol") ∧
        ∀ join ∈ selection.joins, join.segment = "[B:Id:Id]" →
          standing? "Source" selection.joins (some "[A:Id:Id]") = some join.leftTable := by
  have named : Text.allBlank "Source" = false := by decide
  have declared : entangled.fields ≠ [] := by decide
  obtain ⟨selection, resolved, segments, made⟩ :=
    joins_first_mentions entangled (some .left) named declared
  have attempted : (entangled.paths.flatMap fun path =>
      (JoinPath.ofText path).attemptedHops).eraseDups =
        ["[RightTable:RightCol:LeftCol]", "[A:Id:Id]", "[B:Id:Id]"] := by decide +kernel
  have start : firstMention? (mentionsOf entangled.paths) "[RightTable:RightCol:LeftCol]" =
      some ⟨none, "[RightTable:RightCol:LeftCol]"⟩ := by decide +kernel
  have mentioned : firstMention? (mentionsOf entangled.paths) "[B:Id:Id]" =
      some ⟨some "[A:Id:Id]", "[B:Id:Id]"⟩ := by decide +kernel
  have parsed : Hop.parse? "[RightTable:RightCol:LeftCol]" =
      some ⟨"RightTable", "RightCol", "LeftCol", "[RightTable:RightCol:LeftCol]"⟩ := by
    decide +kernel
  refine ⟨named, declared, selection, resolved, segments.trans attempted,
    fun join member spelled => ?_, fun join member spelled => ?_⟩
  · obtain ⟨hop, mention, reads, _, kind, table, column, tied, first, standing⟩ := made join member
    rw [spelled, parsed] at reads
    rw [spelled, start] at first
    cases reads
    cases first
    exact ⟨kind, (Option.some.inj standing).symm, tied, table, column⟩
  · obtain ⟨_, mention, _, _, _, _, _, _, first, standing⟩ := made join member
    rw [spelled, mentioned] at first
    cases first
    exact standing

end PathQuery.Projection
