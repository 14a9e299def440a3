/-
**Join graphs as records of what paths mention.**

A path mentions the hops that following it gets to make, each behind the hop before it. A graph
that paths were resolved in is determined by all their mentions, in order, and only the first
mention of a hop matters:

* `Records`: the joins are the hops mentioned, each once and where it was mentioned first, and a
  join stands behind the hop of that first mention;
* `join_records`: one hop more is one mention more;
* `follow_records`, `resolve_records`, `resolveAll_records`: so a run of paths records the mentions
  of all of them, those that lead nowhere included.
-/

import Mathlib.Data.List.TakeWhile
import PathQuery.Proofs.Distinct
import PathQuery.Proofs.JoinGraph.Run

namespace PathQuery

open Text

/-- A hop as a path mentions it. -/
structure Mention where
  /-- The hop in front of it, unless the path starts with it. -/
  parent : Option String
  hop : String
  deriving DecidableEq, Repr

/-- The mentions of a chain of hops behind `parent`. -/
def mentionsAfter (parent : Option String) : List String → List Mention
  | [] => []
  | hop :: rest => ⟨parent, hop⟩ :: mentionsAfter (some hop) rest

/-- The mentions of a path, which are the hops that following it gets to make. -/
def JoinPath.mentions (path : JoinPath) : List Mention := mentionsAfter none path.attemptedHops

/-- The mentions of paths, one path after the other. -/
def mentionsOf (paths : List String) : List Mention :=
  paths.flatMap fun path => (JoinPath.ofText path).mentions

/-- The first mention of a hop. -/
def firstMention? (mentions : List Mention) (segment : String) : Option Mention :=
  mentions.find? (·.hop == segment)

/-- The table that a path stands at: the source table at its start, and behind a hop the alias of
the join that was made for it. -/
def standing? (source : String) (joins : List Join) : Option String → Option String
  | none => some source
  | some segment => (joins.find? (·.segment == segment)).map (·.name)

/-! ### Mentions -/

theorem map_hop_mentionsAfter (parent : Option String) (hops : List String) :
    (mentionsAfter parent hops).map (·.hop) = hops := by
  induction hops generalizing parent with
  | nil => rfl
  | cons hop rest ih => rw [mentionsAfter, List.map_cons, ih]

theorem map_hop_mentionsOf (paths : List String) :
    (mentionsOf paths).map (·.hop) =
      paths.flatMap fun path => (JoinPath.ofText path).attemptedHops := by
  simp only [mentionsOf, List.map_flatMap, JoinPath.mentions, map_hop_mentionsAfter]

theorem mem_mentionsOf {paths : List String} {path segment : String} (listed : path ∈ paths)
    (attempted : segment ∈ (JoinPath.ofText path).attemptedHops) :
    segment ∈ (mentionsOf paths).map (·.hop) := by
  rw [map_hop_mentionsOf, List.mem_flatMap]
  exact ⟨path, listed, attempted⟩

theorem JoinPath.attemptedHops_of_usable {path : JoinPath} (usable : path.Usable) :
    path.attemptedHops = path.hops := by
  rw [attemptedHops, if_pos usable.1, List.takeWhile_eq_self_iff]
  exact usable.2

/-- A path whose first hop is not even shaped like one attempts no hop. -/
theorem takeWhile_hops_of_not_startsWell {path : JoinPath} (wrong : path.startsWell = false) :
    path.hops.takeWhile (fun segment => (Hop.joinable? segment).isSome) = [] := by
  cases hops : path.hops with
  | nil => rfl
  | cons segment rest =>
    cases reads : Hop.joinable? segment with
    | none => simp [reads]
    | some hop =>
      have shaped := Hop.isShaped_of_parse? (Hop.joinable?_eq_some_iff.mp reads).1
      simp [JoinPath.startsWell, hops, shaped] at wrong

theorem firstMention?_append_of_some {mentions : List Mention} {segment : String} {mention : Mention}
    (first : firstMention? mentions segment = some mention) (more : List Mention) :
    firstMention? (mentions ++ more) segment = some mention := by
  rw [firstMention?] at first ⊢
  rw [List.find?_append, first, Option.some_or]

theorem firstMention?_eq_none {mentions : List Mention} {segment : String}
    (absent : segment ∉ mentions.map (·.hop)) : firstMention? mentions segment = none := by
  refine List.find?_eq_none.mpr fun mention listed same => absent ?_
  exact List.mem_map.mpr ⟨mention, listed, by simpa using same⟩

/-- A table that a path stands at stays where it is when joins are added. -/
theorem standing?_append {source : String} {joins : List Join} {behind : Option String}
    {table : String} (standing : standing? source joins behind = some table) (more : List Join) :
    standing? source (joins ++ more) behind = some table := by
  cases behind with
  | none => exact standing
  | some segment =>
    obtain ⟨join, found, named⟩ := Option.map_eq_some_iff.mp standing
    simp only [standing?, List.find?_append, found, Option.some_or, Option.map_some, named]

namespace JoinGraph

/-- Behind a hop that is joined, a path stands at the alias of the join. -/
theorem standing?_of_find? {graph : JoinGraph} {segment : String} {join : Join}
    (found : graph.find? segment = some join) :
    standing? graph.source graph.joins (some segment) = some join.name := by
  rw [find?] at found
  rw [standing?, found, Option.map_some]

/-- **A graph that records mentions.** -/
structure Records (graph : JoinGraph) (mentions : List Mention) : Prop where
  /-- Every hop mentioned is joined once, in the order of the first mentions. -/
  segments : graph.joins.map (·.segment) = (mentions.map (·.hop)).eraseDups
  /-- A join is the one that its hop asks for, behind the hop of its first mention. -/
  made : ∀ join ∈ graph.joins, ∃ hop mention left,
    Hop.joinable? join.segment = some hop ∧
      firstMention? mentions join.segment = some mention ∧
      standing? graph.source graph.joins mention.parent = some left ∧
      join = Join.ofHop hop left join.name graph.kind

namespace Records

variable {graph : JoinGraph} {mentions : List Mention}

theorem empty (source : String) (kind : Option JoinKind) : Records (.empty source kind) [] :=
  ⟨rfl, fun _ member => by cases member⟩

theorem mem_segments_iff (records : Records graph mentions) (segment : String) :
    segment ∈ graph.joins.map (·.segment) ↔ segment ∈ mentions.map (·.hop) := by
  rw [records.segments, List.mem_eraseDups]

theorem joinable (records : Records graph mentions) {segment : String} {join : Join}
    (found : graph.find? segment = some join) : (Hop.joinable? segment).isSome = true := by
  obtain ⟨hop, _, _, reads, _⟩ := records.made join (List.mem_of_find?_eq_some found)
  rw [← segment_of_find? found, reads]
  rfl

/-- **A hop that was mentioned before changes nothing.** -/
theorem again (records : Records graph mentions) (parent : Option String) {segment : String}
    (before : segment ∈ mentions.map (·.hop)) : Records graph (mentions ++ [⟨parent, segment⟩]) := by
  constructor
  · rw [records.segments, List.map_append, List.map_singleton, eraseDups_concat_of_mem before]
  · intro join member
    obtain ⟨hop, mention, left, reads, first, standing, made⟩ := records.made join member
    exact ⟨hop, mention, left, reads, firstMention?_append_of_some first _, standing, made⟩

/-- **A new hop is joined behind the others.** -/
theorem push (records : Records graph mentions) {parent : Option String} {segment left : String}
    {hop : Hop} (new : segment ∉ mentions.map (·.hop)) (reads : Hop.joinable? segment = some hop)
    (standing : standing? graph.source graph.joins parent = some left) (name : String) :
    Records (graph.push (Join.ofHop hop left name graph.kind))
      (mentions ++ [⟨parent, segment⟩]) := by
  have spelled : hop.text = segment :=
    Hop.text_of_parse? (Hop.joinable?_eq_some_iff.mp reads).1
  constructor
  · rw [joins_push, List.map_append, records.segments, List.map_append, List.map_singleton,
      List.map_singleton, eraseDups_concat_of_not_mem new, Join.ofHop, spelled]
  · intro join member
    rw [joins_push, List.mem_append, List.mem_singleton] at member
    rcases member with old | rfl
    · obtain ⟨hop', mention, left', reads', first, standing', made⟩ := records.made join old
      exact ⟨hop', mention, left', reads', firstMention?_append_of_some first _,
        standing?_append standing' _, made⟩
    · refine ⟨hop, ⟨parent, segment⟩, left, ?_, ?_, standing?_append standing _, rfl⟩
      · rw [← reads, ← spelled]
        rfl
      · have absent := firstMention?_eq_none new
        rw [firstMention?] at absent ⊢
        rw [List.find?_append]
        simp [Join.ofHop, spelled, absent]

end Records

/-! ### Hops, paths and runs of paths -/

variable {graph : JoinGraph} {mentions : List Mention}

/-- **One hop more is one mention more**, and the path stands at the hop's alias. -/
theorem join_records (records : Records graph mentions) {parent : Option String}
    {segment left : String} {hop : Hop} (reads : Hop.joinable? segment = some hop)
    (standing : standing? graph.source graph.joins parent = some left) :
    ∃ name, (graph.join left segment).answer = some name ∧
      Records (graph.join left segment).graph (mentions ++ [⟨parent, segment⟩]) ∧
      standing? (graph.join left segment).graph.source (graph.join left segment).graph.joins
        (some segment) = some name := by
  have step := graph.joined left segment
  generalize graph.join left segment = result at step ⊢
  cases step with
  | known join found =>
    have before : segment ∈ mentions.map (·.hop) := by
      rw [← records.mem_segments_iff]
      exact List.mem_map.mpr ⟨join, List.mem_of_find?_eq_some found, segment_of_find? found⟩
    exact ⟨join.name, rfl, records.again parent before, standing?_of_find? found⟩
  | refused absent wrong =>
    rw [wrong] at reads
    cases reads
  | added hop' name absent reads' allocated =>
    have new : segment ∉ mentions.map (·.hop) := by
      rw [← records.mem_segments_iff]
      intro before
      obtain ⟨join, member, same⟩ := List.mem_map.mp before
      exact absurd (by simpa using same) (List.find?_eq_none.mp absent join member)
    refine ⟨name, rfl, records.push new reads' standing name, ?_⟩
    have spelled : hop'.text = segment :=
      Hop.text_of_parse? (Hop.joinable?_eq_some_iff.mp reads').1
    rw [find?] at absent
    simp [standing?, absent, Join.ofHop, spelled]

/-- A hop that cannot be joined is refused, whatever the graph holds. -/
theorem join_of_not_joinable (records : Records graph mentions) {segment : String}
    (wrong : Hop.joinable? segment = none) (left : String) :
    graph.join left segment = ⟨none, graph, []⟩ := by
  have step := graph.joined left segment
  generalize graph.join left segment = result at step ⊢
  cases step with
  | known join found =>
    have reads := records.joinable found
    rw [wrong] at reads
    cases reads
  | refused => rfl
  | added hop name absent reads =>
    rw [wrong] at reads
    cases reads

/-- **A chain of hops is recorded up to the first that cannot be joined.** It has an answer when
all can, and the answer is the table that the path stands at behind the last. -/
theorem follow_records (hops : List String) (records : Records graph mentions)
    {parent : Option String} {current : String}
    (standing : standing? graph.source graph.joins parent = some current) :
    Records (graph.follow current hops).graph (mentions ++
        mentionsAfter parent (hops.takeWhile fun segment => (Hop.joinable? segment).isSome)) ∧
      (graph.follow current hops).answer =
        if hops.all fun segment => (Hop.joinable? segment).isSome then
          standing? (graph.follow current hops).graph.source
            (graph.follow current hops).graph.joins (hops.getLast?.or parent)
        else none := by
  induction hops generalizing graph mentions parent current with
  | nil =>
    rw [List.takeWhile_nil, mentionsAfter, List.append_nil]
    exact ⟨records, standing.symm⟩
  | cons segment rest ih =>
    cases reads : Hop.joinable? segment with
    | none =>
      have refused := join_of_not_joinable records reads current
      simp only [follow, refused, List.takeWhile_cons, List.all_cons, reads]
      exact ⟨by simpa [mentionsAfter] using records, rfl⟩
    | some hop =>
      obtain ⟨name, answer, records', standing'⟩ := join_records records reads standing
      obtain ⟨recorded, answered⟩ := ih records' standing'
      simp only [follow, answer, List.takeWhile_cons, List.all_cons, reads, Option.isSome_some,
        if_true, Bool.true_and, mentionsAfter]
      refine ⟨by simpa using recorded, ?_⟩
      rw [answered, List.getLast?_cons]
      cases rest.getLast? <;> rfl

/-- **A path records its mentions.** -/
theorem resolve_records (records : Records graph mentions) (field path : String) :
    Records (graph.resolve field path).graph
      (mentions ++ (JoinPath.ofText path).mentions) := by
  rw [JoinPath.mentions, JoinPath.attemptedHops]
  cases ends : (JoinPath.ofText path).endsInColumn with
  | false =>
    rw [resolve_of_not_endsInColumn graph field ends]
    simpa [mentionsAfter] using records
  | true =>
    cases starts : (JoinPath.ofText path).startsWell with
    | true =>
      simp only [resolve, ends, starts, Bool.and_self, if_true]
      exact (follow_records _ records rfl).1
    | false =>
      rw [resolve_of_not_startsWell graph field starts]
      have nothing : (JoinPath.ofText path).hops.takeWhile
          (fun segment => (Hop.joinable? segment).isSome) = [] :=
        takeWhile_hops_of_not_startsWell starts
      simpa [nothing, mentionsAfter] using records

/-- **A usable path leads to a column**, of the table that it stands at behind its last hop. Other
paths lead nowhere. -/
theorem resolve_answer (records : Records graph mentions) (field path : String) :
    (graph.resolve field path).answer =
      if (JoinPath.ofText path).Usable then
        (standing? (graph.resolve field path).graph.source (graph.resolve field path).graph.joins
          (JoinPath.ofText path).hops.getLast?).map fun table =>
            ⟨table, (JoinPath.ofText path).column, some field⟩
      else none := by
  by_cases ends : (JoinPath.ofText path).endsInColumn = true
  · by_cases starts : (JoinPath.ofText path).startsWell = true
    · have start : standing? graph.source graph.joins none = some graph.source := rfl
      have answered := (follow_records (JoinPath.ofText path).hops records start).2
      simp only [resolve, ends, starts, Bool.and_self, if_true, answered, JoinPath.Usable,
        true_and, List.all_eq_true, Option.or_none]
      split <;> rfl
    · have nothing := takeWhile_hops_of_not_startsWell (Bool.eq_false_iff.mpr starts)
      rw [resolve_of_not_startsWell graph field (Bool.eq_false_iff.mpr starts), if_neg]
      rintro ⟨_, all⟩
      rw [List.takeWhile_eq_self_iff.mpr all] at nothing
      simp [JoinPath.startsWell, nothing] at starts
  · rw [resolve_of_not_endsInColumn graph field (Bool.eq_false_iff.mpr ends), if_neg]
    exact fun usable => ends usable.1

/-- A column is one of a usable path, and its table is where the path stands behind its last hop. -/
theorem of_resolve_eq_some (records : Records graph mentions) {field path : String} {column : Column}
    (answer : (graph.resolve field path).answer = some column) :
    (JoinPath.ofText path).Usable ∧
      standing? (graph.resolve field path).graph.source (graph.resolve field path).graph.joins
        (JoinPath.ofText path).hops.getLast? = some column.table := by
  rw [resolve_answer records] at answer
  split at answer
  · rename_i usable
    obtain ⟨table, standing, rfl⟩ := Option.map_eq_some_iff.mp answer
    exact ⟨usable, standing⟩
  · cases answer

/-- **A run of paths records the mentions of all of them.** -/
theorem resolveAll_records (calls : List (String × String)) (records : Records graph mentions) :
    Records (graph.resolveAll calls) (mentions ++ mentionsOf (calls.map (·.2))) := by
  induction calls generalizing graph mentions with
  | nil => simpa [mentionsOf, resolveAll] using records
  | cons call rest ih =>
    have recorded := ih (resolve_records records call.1 call.2)
    simpa [mentionsOf, resolveAll] using recorded

end JoinGraph

end PathQuery
