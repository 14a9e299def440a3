/-
**The joins behind a column.**

A column with a path stands at the end of a chain of joins, one for every hop of the path. A join
is shared by all paths with its hop, and keeps the left table of the first of them. So:

* `chain_of_outcome`: the chain is always there and ends at the column's table, but the left tables
  in it are those of the first mentions;
* `threaded_of_mentionedFirst`, `mentionedFirst_of_threaded`: the chain follows on, as the path
  declares it, when every hop was mentioned behind the same hop first, and only then unless an
  alias is spelled like the source table;
* `not_forall_threaded`: a hop below two parents breaks one of the two chains.
-/

import Mathlib.Data.List.Nodup
import PathQuery.Proofs.JoinGraph.Numbering
import PathQuery.Proofs.Projection.JoinList

namespace PathQuery

/-- Joins that follow on from each other, the first from `left`. -/
def Threaded (left : String) : List Join → Prop
  | [] => True
  | join :: rest => join.leftTable = left ∧ Threaded join.name rest

/-- The table at the end of a chain of joins that starts at the source table. -/
def endTable (source : String) (chain : List Join) : String :=
  (chain.getLast?.map (·.name)).getD source

/-- A path is mentioned first when no hop of it has its first mention behind another hop. -/
def JoinPath.MentionedFirst (path : JoinPath) (mentions : List Mention) : Prop :=
  ∀ mention ∈ path.mentions, firstMention? mentions mention.hop = some mention

/-! ### Fields and their columns -/

namespace Projection

/-- Fields resolved one after the other, each with the column that it came to, if it came to one. -/
def outcomesFrom (graph : JoinGraph) : List Field → List (Field × Option Column)
  | [] => []
  | field :: rest =>
    (field, (field.resolve graph).answer) :: outcomesFrom (field.resolve graph).graph rest

/-- The fields of a projection, each with its column. -/
def outcomes (projection : Projection) (source : String) (kind : Option JoinKind) :
    List (Field × Option Column) :=
  outcomesFrom (.empty source kind) projection.fields

theorem columns_foldl_advance (projection : String) (fields : List Field) (progress : Progress) :
    (fields.foldl (Field.advance projection) progress).columns =
      progress.columns ++ (outcomesFrom progress.graph fields).filterMap (·.2) := by
  induction fields generalizing progress with
  | nil => simp [outcomesFrom]
  | cons field rest ih =>
    rw [List.foldl_cons, ih, graph_advance, columns_advance, outcomesFrom, List.filterMap_cons,
      List.append_assoc]
    cases (field.resolve progress.graph).answer <;> rfl

/-- **The columns of a selection are those that its fields came to**, in declared order. -/
theorem columns_progress (projection : Projection) (source : String) (kind : Option JoinKind) :
    (projection.progress source kind).columns =
      (projection.outcomes source kind).filterMap (·.2) :=
  columns_foldl_advance _ _ _

theorem progress_graph_of_declared {projection : Projection} {before after : List Field}
    {field : Field} {path : String} (declared : projection.fields = before ++ field :: after)
    (annotated : field.path = some path) (source : String) (kind : Option JoinKind) :
    (projection.progress source kind).graph =
      ((((JoinGraph.empty source kind).resolveAll (calls before)).resolve field.name
        path).graph).resolveAll (calls after) := by
  rw [progress_graph, declared]
  simp [calls, annotated, JoinGraph.resolveAll]

/-- A field is resolved where the fields before it left the graph. -/
theorem exists_of_mem_outcomesFrom {field : Field} {answer : Option Column} {fields : List Field}
    {graph : JoinGraph} (listed : (field, answer) ∈ outcomesFrom graph fields) :
    ∃ before after, fields = before ++ field :: after ∧
      (field.resolve (graph.resolveAll (calls before))).answer = answer := by
  induction fields generalizing graph with
  | nil => cases listed
  | cons first rest ih =>
    rcases List.mem_cons.mp listed with here | later
    · cases here
      exact ⟨[], rest, rfl, rfl⟩
    · obtain ⟨before, after, rfl, answered⟩ := ih later
      exact ⟨first :: before, after, rfl, by rw [resolveAll_calls_cons, answered]⟩

end Projection

/-! ### Chains in a graph -/

namespace JoinGraph.Records

variable {graph : JoinGraph} {mentions : List Mention}

/-- **Hops that were mentioned have a chain of joins.** -/
theorem exists_chain (records : Records graph mentions) {hops : List String}
    (mentioned : ∀ hop ∈ hops, hop ∈ mentions.map (·.hop)) :
    ∃ chain : List Join, chain.map (·.segment) = hops ∧
      ∀ join ∈ chain, graph.find? join.segment = some join := by
  induction hops with
  | nil => exact ⟨[], rfl, fun _ member => by cases member⟩
  | cons hop rest ih =>
    obtain ⟨chain, spelled, found⟩ := ih fun other member =>
      mentioned other (List.mem_cons_of_mem _ member)
    have listed := (records.mem_segments_iff hop).mpr (mentioned hop List.mem_cons_self)
    obtain ⟨join, member, same⟩ := List.mem_map.mp listed
    have known : (graph.find? hop).isSome = true :=
      List.find?_isSome.mpr ⟨join, member, by simpa using same⟩
    obtain ⟨first, here⟩ := Option.isSome_iff_exists.mp known
    have text := segment_of_find? here
    refine ⟨first :: chain, by rw [List.map_cons, text, spelled], fun other among => ?_⟩
    rcases List.mem_cons.mp among with rfl | among
    · rw [text, here]
    · exact found other among

theorem standing?_endTable {chain : List Join}
    (found : ∀ join ∈ chain, graph.find? join.segment = some join) :
    standing? graph.source graph.joins (chain.map (·.segment)).getLast? =
      some (endTable graph.source chain) := by
  rw [List.getLast?_map, endTable]
  cases last : chain.getLast? with
  | none => rfl
  | some join =>
    exact standing?_of_find? (found join (List.mem_of_getLast? last))

/-- The left table of a join is where its first mention stands. -/
theorem leftTable_of_find? (records : Records graph mentions) {segment : String} {join : Join}
    (found : graph.find? segment = some join) :
    ∃ mention, firstMention? mentions segment = some mention ∧
      standing? graph.source graph.joins mention.parent = some join.leftTable := by
  obtain ⟨hop, mention, left, _, first, standing, made⟩ :=
    records.made join (List.mem_of_find?_eq_some found)
  refine ⟨mention, segment_of_find? found ▸ first, ?_⟩
  rw [standing, made]
  rfl

/-- **Mentioned first, a chain follows on.** -/
theorem threaded_of_mentionedFirst (records : Records graph mentions) {chain : List Join}
    (found : ∀ join ∈ chain, graph.find? join.segment = some join) {parent : Option String}
    {left : String} (standing : standing? graph.source graph.joins parent = some left)
    (first : ∀ mention ∈ mentionsAfter parent (chain.map (·.segment)),
      firstMention? mentions mention.hop = some mention) : Threaded left chain := by
  induction chain generalizing parent left with
  | nil => trivial
  | cons join rest ih =>
    have here := found join List.mem_cons_self
    obtain ⟨mention, mentioned, stands⟩ := records.leftTable_of_find? here
    rw [first ⟨parent, join.segment⟩ List.mem_cons_self] at mentioned
    cases mentioned
    constructor
    · exact Option.some.inj (stands.symm.trans standing)
    · exact ih (fun other member => found other (List.mem_cons_of_mem _ member))
        (standing?_of_find? here) fun later member => first later (List.mem_cons_of_mem _ member)

/-- Different tables are different places to stand at, while the source table is spelled like no
alias. -/
theorem eq_of_standing? (distinct : (graph.joins.map (·.name)).Nodup)
    (apart : graph.source ∉ graph.joins.map (·.name)) {first second : Option String}
    {table : String} (standing : standing? graph.source graph.joins first = some table)
    (standing' : standing? graph.source graph.joins second = some table) : first = second := by
  have aliased : ∀ {segment : String},
      standing? graph.source graph.joins (some segment) = some table →
        ∃ join ∈ graph.joins, join.segment = segment ∧ join.name = table := by
    intro segment stands
    obtain ⟨join, found, named⟩ := Option.map_eq_some_iff.mp stands
    exact ⟨join, List.mem_of_find?_eq_some found, segment_of_find? found, named⟩
  cases first with
  | none =>
    cases standing
    cases second with
    | none => rfl
    | some segment =>
      obtain ⟨join, member, _, named⟩ := aliased standing'
      exact absurd (List.mem_map.mpr ⟨join, member, named⟩) apart
  | some segment =>
    obtain ⟨join, member, text, named⟩ := aliased standing
    cases second with
    | none =>
      cases standing'
      exact absurd (List.mem_map.mpr ⟨join, member, named⟩) apart
    | some other =>
      obtain ⟨join', member', text', named'⟩ := aliased standing'
      have same : join = join' :=
        List.inj_on_of_nodup_map distinct member member' (named.trans named'.symm)
      rw [← text, ← text', same]

/-- **A chain that follows on was mentioned first.** -/
theorem mentionedFirst_of_threaded (records : Records graph mentions)
    (distinct : (graph.joins.map (·.name)).Nodup)
    (apart : graph.source ∉ graph.joins.map (·.name)) {chain : List Join}
    (found : ∀ join ∈ chain, graph.find? join.segment = some join) {parent : Option String}
    {left : String} (standing : standing? graph.source graph.joins parent = some left)
    (threaded : Threaded left chain) :
    ∀ mention ∈ mentionsAfter parent (chain.map (·.segment)),
      firstMention? mentions mention.hop = some mention := by
  induction chain generalizing parent left with
  | nil => exact fun _ member => by cases member
  | cons join rest ih =>
    obtain ⟨follows, others⟩ := threaded
    have here := found join List.mem_cons_self
    obtain ⟨mention, mentioned, stands⟩ := records.leftTable_of_find? here
    rw [follows] at stands
    have behind : mention.parent = parent := eq_of_standing? distinct apart stands standing
    have hop : mention.hop = join.segment := by simpa using List.find?_some mentioned
    intro other member
    rcases List.mem_cons.mp member with rfl | later
    · calc firstMention? mentions join.segment = some mention := mentioned
        _ = some ⟨parent, join.segment⟩ := by rw [← behind, ← hop]
    · exact ih (fun among listed => found among (List.mem_cons_of_mem _ listed))
        (standing?_of_find? here) others other later

end JoinGraph.Records

/-! ### The chain of a column -/

/-- **Where the path of a column stands**, once all fields are resolved. It came there when its turn
came, and the graph has only grown since. -/
theorem Projection.standing?_of_outcome {projection : Projection} {source : String}
    {kind : Option JoinKind} {field : Field} {path : String} {column : Column}
    (emitted : (field, some column) ∈ projection.outcomes source kind)
    (annotated : field.path = some path) :
    path ∈ projection.paths ∧ (JoinPath.ofText path).Usable ∧
      standing? source (projection.progress source kind).graph.joins
        (JoinPath.ofText path).hops.getLast? = some column.table := by
  obtain ⟨before, after, declared, answered⟩ := exists_of_mem_outcomesFrom emitted
  rw [Field.resolve, annotated] at answered
  obtain ⟨usable, stood⟩ :=
    JoinGraph.of_resolve_eq_some (fields_records before source kind) answered
  refine ⟨List.mem_filterMap.mpr ⟨field, ?_, annotated⟩, usable, ?_⟩
  · rw [declared]
    exact List.mem_append_right _ List.mem_cons_self
  · have start := projection.progress_source source kind
    have grown := progress_graph_of_declared declared annotated source kind
    obtain ⟨more, behind⟩ := JoinGraph.joins_resolveAll _ (calls after)
    rw [grown, JoinGraph.source_resolveAll] at start
    rw [start] at stood
    rw [grown, ← behind]
    exact standing?_append stood more

/-- **A column stands at the end of its chain.** The columns of a selection are those that its
fields came to. For every hop of the path of such a field there is a join, and the column is one of
the last join's alias. The left table of each is the one of the hop's first mention. So the chain
follows on from the source table if every hop was mentioned there first, and otherwise it does not,
unless the source table is spelled like an alias. -/
theorem Projection.chain_of_outcome {projection : Projection} {source : String}
    {kind : Option JoinKind} {selection : Selection} {events : List Event} {field : Field}
    {path : String} {column : Column}
    (resolved : projection.resolve source kind = (some selection, events))
    (emitted : (field, some column) ∈ projection.outcomes source kind)
    (annotated : field.path = some path) :
    selection.columns = (projection.outcomes source kind).filterMap (·.2) ∧
      column ∈ selection.columns ∧
      ∃ chain : List Join, chain.map (·.segment) = (JoinPath.ofText path).hops ∧
        (∀ join ∈ chain, join ∈ selection.joins) ∧ column.table = endTable source chain ∧
        (∀ join ∈ chain, ∃ mention,
          firstMention? (mentionsOf projection.paths) join.segment = some mention ∧
            standing? source selection.joins mention.parent = some join.leftTable) ∧
        ((JoinPath.ofText path).MentionedFirst (mentionsOf projection.paths) →
          Threaded source chain) ∧
        (source ∉ selection.joins.map (·.name) → Threaded source chain →
          (JoinPath.ofText path).MentionedFirst (mentionsOf projection.paths)) := by
  obtain ⟨listed, usable, stands⟩ := standing?_of_outcome emitted annotated
  have columns : selection.columns = (projection.outcomes source kind).filterMap (·.2) := by
    rw [selection_of_resolve resolved, columns_progress]
  have among : column ∈ selection.columns := by
    rw [columns]
    exact List.mem_filterMap.mpr ⟨_, emitted, rfl⟩
  refine ⟨columns, among, ?_⟩
  obtain rfl := selection_of_resolve resolved
  have records := projection.progress_records source kind
  have start := projection.progress_source source kind
  have names : ((projection.progress source kind).graph.joins.map (·.name)).Nodup := by
    rw [progress_graph]
    exact Alias.nodup_names (JoinGraph.numbered_resolveAll source kind _)
  generalize (projection.progress source kind).graph = graph at records stands start names ⊢
  have attempted := JoinPath.attemptedHops_of_usable usable
  -- Every hop of the path was attempted, so there is a join for each of them.
  obtain ⟨chain, spelled, found⟩ := records.exists_chain fun hop member =>
    mem_mentionsOf listed (attempted.symm ▸ member)
  have atEnd := JoinGraph.Records.standing?_endTable found
  rw [spelled, start, stands] at atEnd
  have begins : standing? graph.source graph.joins none = some source := congrArg some start
  have mentions : (JoinPath.ofText path).mentions =
      mentionsAfter none (chain.map (·.segment)) := by
    rw [JoinPath.mentions, attempted, spelled]
  refine ⟨chain, spelled, fun join member => List.mem_of_find?_eq_some (found join member),
    Option.some.inj atEnd, fun join member => ?_, fun first => ?_, fun apart threaded => ?_⟩
  · rw [← start]
    exact records.leftTable_of_find? (found join member)
  · rw [JoinPath.MentionedFirst, mentions] at first
    exact records.threaded_of_mentionedFirst found begins first
  · rw [JoinPath.MentionedFirst, mentions]
    rw [← start] at apart
    exact records.mentionedFirst_of_threaded names apart found begins threaded

/-! ### A hop below two parents -/

/-- One hop, first behind another and then at the start of a path. -/
def crossing : Projection :=
  ⟨"Crossing",
    [⟨"Far", some "[X:Id:Id].[Y:Id:Id].Value"⟩, ⟨"Near", some "[Y:Id:Id].Value"⟩]⟩

/-- Both columns are of the one join to `Y`, which stands behind the join to `X`. -/
def crossed : Selection :=
  ⟨[⟨"Y1", "Value", some "Far"⟩, ⟨"Y1", "Value", some "Near"⟩],
    [⟨some .left, "Source", "Id", "X", "Id", "X1", "[X:Id:Id]"⟩,
      ⟨some .left, "X1", "Id", "Y", "Id", "Y1", "[Y:Id:Id]"⟩]⟩

theorem resolve_crossing :
    crossing.resolve "Source" (some .left) =
      (some crossed, [.aliasAllocated "[X:Id:Id]" "Source" "X1",
        .aliasAllocated "[Y:Id:Id]" "X1" "Y1"]) := by
  decide +kernel

theorem outcomes_crossing :
    crossing.outcomes "Source" (some .left) =
      [(⟨"Far", some "[X:Id:Id].[Y:Id:Id].Value"⟩, some ⟨"Y1", "Value", some "Far"⟩),
        (⟨"Near", some "[Y:Id:Id].Value"⟩, some ⟨"Y1", "Value", some "Near"⟩)] := by
  decide +kernel

/-- The path that mentioned `Y` first has the chain that it declares. -/
theorem chain_of_far :
    crossed.columns = (crossing.outcomes "Source" (some .left)).filterMap (·.2) ∧
      (⟨"Y1", "Value", some "Far"⟩ : Column) ∈ crossed.columns ∧
      ∃ chain : List Join, chain.map (·.segment) = ["[X:Id:Id]", "[Y:Id:Id]"] ∧
        (∀ join ∈ chain, join ∈ crossed.joins) ∧ "Y1" = endTable "Source" chain ∧
        Threaded "Source" chain := by
  have hops : (JoinPath.ofText "[X:Id:Id].[Y:Id:Id].Value").hops = ["[X:Id:Id]", "[Y:Id:Id]"] := by
    decide +kernel
  have first : (JoinPath.ofText "[X:Id:Id].[Y:Id:Id].Value").MentionedFirst
      (mentionsOf crossing.paths) := by
    unfold JoinPath.MentionedFirst
    decide +kernel
  obtain ⟨columns, listed, chain, spelled, among, last, _, threaded, _⟩ :=
    Projection.chain_of_outcome resolve_crossing (outcomes_crossing ▸ List.mem_cons_self) rfl
  exact ⟨columns, listed, chain, spelled.trans hops, among, last, threaded first⟩

/-- **Not every chain follows on as its path declares it**: the later path to `Y` reaches the rows
behind `X`. -/
theorem not_forall_threaded :
    ¬ ∀ (projection : Projection) (source : String) (kind : Option JoinKind)
      (selection : Selection) (events : List Event) (field : Field) (path : String)
      (column : Column), projection.resolve source kind = (some selection, events) →
        selection.columns = (projection.outcomes source kind).filterMap (·.2) →
        (field, some column) ∈ projection.outcomes source kind → field.path = some path →
        ∃ chain : List Join, chain.map (·.segment) = (JoinPath.ofText path).hops ∧
          (∀ join ∈ chain, join ∈ selection.joins) ∧ Threaded source chain ∧
          column.table = endTable source chain := by
  intro all
  have columns : crossed.columns = (crossing.outcomes "Source" (some .left)).filterMap (·.2) := by
    rw [outcomes_crossing]
    rfl
  have near := all crossing "Source" (some .left) crossed _ _ _ _ resolve_crossing columns
    (outcomes_crossing ▸ List.mem_cons_of_mem _ List.mem_cons_self) rfl
  obtain ⟨chain, spelled, among, threaded, _⟩ := near
  have hops : (JoinPath.ofText "[Y:Id:Id].Value").hops = ["[Y:Id:Id]"] := by decide +kernel
  rw [hops] at spelled
  obtain ⟨join, rfl, text⟩ := List.map_eq_singleton_iff.mp spelled
  have member := among join List.mem_cons_self
  simp only [crossed, List.mem_cons, List.not_mem_nil, or_false] at member
  rcases member with rfl | rfl
  · exact absurd text (by decide)
  · exact absurd threaded.1 (by decide)

end PathQuery
