/-
**A statement is put together from the answers of its session.**

What a session selects is written from parts that can be asked for one by one: the columns and the
joins of the projection, the texts of the joins, and the condition of the filter. The kind of every
join is that of the settings, which have one, and so it stays in all that is kept. So the joins can
always be written, and the filter alone can be refused.

* `Session.Reached.sound`: what holds of a session behind any calls;
* `Session.draft_of_texts`: what is selected where there are columns;
* `Session.select_of_reached`: when there is no statement, when there is an error and which one, and
  what is written otherwise.
-/

import PathQuery.Proofs.Filter.Parameters
import PathQuery.Proofs.Projection.JoinList
import PathQuery.Proofs.Session.Replies
import PathQuery.Proofs.Statement.Writing

namespace PathQuery

theorem Settings.joinKind_ne_none {settings : Settings} (usable : settings.check = .ok ()) :
    settings.joinKind ≠ none := by
  intro unset
  simp [check, unset] at usable

namespace Session

variable {κ : Type} {session : Session κ}

/-- The condition of a statement under a filter that may be missing. Without a filter there is no
text, and nothing is bound. -/
def clause (session : Session κ) : Option Filter → Except Error Clause
  | none => .ok ⟨"", .empty⟩
  | some filter => (session.filter filter).1

theorem clause_eq_error_iff {filter : Option Filter} {error : Error} :
    session.clause filter = .error error ↔
      ∃ tree, filter = some tree ∧ (session.filter tree).1 = .error error := by
  cases filter with
  | none =>
    constructor
    · intro refused
      cases refused
    · rintro ⟨tree, given, _⟩
      cases given
  | some tree =>
    refine ⟨fun refused => ⟨tree, rfl, refused⟩, ?_⟩
    rintro ⟨other, given, refused⟩
    cases given
    exact refused

/-- A statement under the condition of a filter has the values of that filter. -/
theorem values_of_filter {statement : Statement} {filter : Filter} {clause : Clause}
    (compiled : (session.filter filter).1 = .ok clause) (under : statement.filter = some clause) :
    statement.values .empty = clause.params := by
  obtain ⟨distinct, textless⟩ := Filter.params_of_compile compiled
  simp only [Statement.values, under]
  split
  · rename_i empty
    rw [textless empty]
  · exact Params.extend_of_nodup distinct

theorem write_of_texts {selection : Selection} {texts : List String}
    (columns : selection.columns ≠ []) (written : selection.joins.map session.join = texts.map .ok)
    (source : String) (clause : Option Clause) :
    session.write ⟨source, selection, clause⟩ =
      .ok ⟨session.dialect.assemble selection.columns source texts
          (Statement.conditionText ⟨source, selection, clause⟩),
        Statement.values ⟨source, selection, clause⟩ .empty⟩ := by
  have whole := @Statement.write_of_texts ⟨source, selection, clause⟩ session.dialect texts columns
    written .empty
  rw [write, whole, Draft.empty, String.empty_append]

/-- **What is selected where there are columns**: the statement under the condition of the filter,
or the error of the filter. -/
theorem draft_of_texts {selection : Selection} {texts : List String}
    (columns : selection.columns ≠ []) (written : selection.joins.map session.join = texts.map .ok)
    (source : String) (filter : Option Filter) :
    (session.draft source filter (some selection)).1 =
      (session.clause filter).map fun clause =>
        some ⟨session.dialect.assemble selection.columns source texts clause.sql,
          clause.params⟩ := by
  have inhabited : ¬ selection.columns.isEmpty = true := by simpa using columns
  have text := write_of_texts columns written source
  rw [draft, if_neg inhabited]
  cases filter with
  | none =>
    simp only [filter?, bind, Except.bind, text none]
    rfl
  | some filter =>
    have given : (session.filter? (some filter)).1 = (session.filter filter).1.map some := rfl
    dsimp only
    rw [given, Session.clause]
    cases compiled : (session.filter filter).1 with
    | error error => rfl
    | ok clause =>
      -- A condition without text brings no values, but then the filter has none.
      have values : Statement.values ⟨source, selection, some clause⟩ .empty = clause.params :=
        values_of_filter compiled rfl
      simp only [Except.map, bind, Except.bind, text (some clause), values]
      rfl

/-! ### Sessions behind calls -/

variable [DecidableEq κ]

/-- Sessions behind any calls. -/
inductive Reached : Session κ → Prop
  | new {session : Session κ} (new : session.IsNew) : Reached session
  | call {session : Session κ} (reached : Reached session) (call : Call κ) :
      Reached (session.call call).session

/-- **What holds of a session behind any calls**: its settings have a kind for joins, and what it
keeps is what its projections resolve to. -/
structure Sound (session : Session κ) : Prop where
  kind : session.settings.joinKind ≠ none
  held : ∃ earlier, session.cache.Holds session.selected (session.kept earlier)

theorem IsNew.sound (new : session.IsNew) : session.Sound where
  kind := by
    cases new with
    | default catalog => exact Option.some_ne_none _
    | start started =>
      obtain ⟨usable, _, _, rfl⟩ := eq_of_start started
      exact Settings.joinKind_ne_none usable
  held := ⟨[], by rw [new.made.1]; exact .empty _⟩

namespace Sound

/-- **One more call**, whatever it is. -/
theorem call (sound : session.Sound) (call : Call κ) : (session.call call).session.Sound := by
  obtain ⟨earlier, holds⟩ := sound.held
  obtain ⟨later, held, reply⟩ := call_of_holds holds call
  -- Only the cache is another one, and it holds what this call looked up as well.
  have after : (session.call call).session = session.withCache later :=
    congrArg Reply.session reply
  rw [after]
  exact ⟨sound.kind, _, held⟩

/-- A look-up gives what the projection resolves to. -/
theorem selection_of_columns (sound : session.Sound) (source : String) (key : κ) :
    (session.columns source key).answer.map (·.selection) = session.selected (source, key) := by
  obtain ⟨earlier, holds⟩ := sound.held
  obtain ⟨later, _, found⟩ := columns_of_holds holds (source, key)
  have answer := congrArg Reply.answer found
  rw [show (session.columns source key).answer = _ from answer, Option.map_map]
  exact Option.map_id'

/-- The kind of every join is that of the settings, which is set. -/
theorem kind_of_mem (sound : session.Sound) {key : String × κ} {selection : Selection}
    (made : session.selected key = some selection) {join : Join}
    (member : join ∈ selection.joins) : join.kind ≠ none := by
  have resolved : (session.catalog key.2).resolve key.1 session.settings.joinKind =
      (some selection, (session.build key).2) := Prod.ext made rfl
  rw [Projection.kind_of_mem_joins resolved member]
  exact sound.kind

end Sound

theorem Reached.sound (reached : session.Reached) : session.Sound := by
  induction reached with
  | new new => exact new.sound
  | call _ call ih => exact ih.call call

/-! ### What is selected -/

variable {source : String} {filter : Option Filter} {key : κ}

theorem answer_select : (session.select source filter key).answer =
    (session.draft source filter ((session.columns source key).answer.map (·.selection))).1 := by
  rw [select_eq]

/-- A look-up that comes to no columns. -/
def Unselective (session : Session κ) (source : String) (key : κ) : Prop :=
  (session.columns source key).answer = none ∨
    ∃ stored, (session.columns source key).answer = some stored ∧ stored.selection.columns = []

theorem not_unselective_iff : ¬ session.Unselective source key ↔
    ∃ stored, (session.columns source key).answer = some stored ∧
      stored.selection.columns ≠ [] := by
  rw [Unselective]
  cases (session.columns source key).answer <;> simp

theorem select_of_unselective (nothing : session.Unselective source key) :
    (session.select source filter key).answer = .ok none := by
  rw [answer_select]
  rcases nothing with missing | ⟨stored, found, empty⟩
  · rw [missing]
    rfl
  · rw [found, Option.map_some, draft, empty]
    rfl

/-- **With columns, the filter decides**, and joins are always written. -/
theorem Sound.select_of_columns (sound : session.Sound) {stored : Stored}
    (found : (session.columns source key).answer = some stored)
    (columns : stored.selection.columns ≠ []) (filter : Option Filter) :
    ∃ texts : List String, stored.selection.joins.map session.join = texts.map .ok ∧
      (session.select source filter key).answer = (session.clause filter).map fun clause =>
        some ⟨session.dialect.assemble stored.selection.columns source texts clause.sql,
          clause.params⟩ := by
  have made : session.selected (source, key) = some stored.selection := by
    rw [← sound.selection_of_columns, found, Option.map_some]
  obtain ⟨texts, written⟩ :=
    Dialect.exists_texts_of_kinds session.dialect fun _ member => sound.kind_of_mem made member
  refine ⟨texts, written, ?_⟩
  rw [answer_select, found, Option.map_some, draft_of_texts columns written]

theorem Sound.select_eq_none_iff (sound : session.Sound) :
    (session.select source filter key).answer = .ok none ↔ session.Unselective source key := by
  refine ⟨fun absent => ?_, select_of_unselective⟩
  by_contra something
  obtain ⟨stored, found, columns⟩ := not_unselective_iff.mp something
  obtain ⟨texts, _, answer⟩ := sound.select_of_columns found columns filter
  rw [answer] at absent
  cases made : session.clause filter with
  | error error => rw [made] at absent; cases absent
  | ok clause => rw [made] at absent; cases absent

theorem Sound.select_eq_error_iff (sound : session.Sound) {error : Error} :
    (session.select source filter key).answer = .error error ↔
      ¬ session.Unselective source key ∧ session.clause filter = .error error := by
  by_cases nothing : session.Unselective source key
  · rw [select_of_unselective nothing]
    exact ⟨fun failed => (by cases failed), fun failed => absurd nothing failed.1⟩
  · obtain ⟨stored, found, columns⟩ := not_unselective_iff.mp nothing
    obtain ⟨texts, _, answer⟩ := sound.select_of_columns found columns filter
    rw [answer, and_iff_right nothing]
    cases session.clause filter with
    | error refused => rw [Except.map, Except.error.injEq, Except.error.injEq]
    | ok clause => exact ⟨fun failed => (by cases failed), fun failed => (by cases failed)⟩

/-- **Selecting agrees with its parts, and fails in one way.** Behind any calls there is no
statement just when the look-up comes to no columns, whatever the filter is. Otherwise there is an
error just when there is a filter that is refused, and it is the error of that filter, an invalid
argument. Otherwise the statement is put together from the columns, the joins as they are written,
and the condition of the filter, and has the values of the filter. -/
theorem select_of_reached (reached : session.Reached) (source : String) (filter : Option Filter)
    (key : κ) :
    ((session.select source filter key).answer = .ok none ↔
      (session.columns source key).answer = none ∨
        ∃ stored, (session.columns source key).answer = some stored ∧
          stored.selection.columns = []) ∧
    (∀ error, (session.select source filter key).answer = .error error ↔
      (∃ stored, (session.columns source key).answer = some stored ∧
        stored.selection.columns ≠ []) ∧
      ∃ tree, filter = some tree ∧ (session.filter tree).1 = .error error) ∧
    (∀ error, (session.select source filter key).answer = .error error →
      error.kind = .invalidArgument) ∧
    ∀ stored, (session.columns source key).answer = some stored → stored.selection.columns ≠ [] →
      ∃ texts : List String, stored.selection.joins.map session.join = texts.map .ok ∧
        (session.select source filter key).answer = (session.clause filter).map fun clause =>
          some ⟨session.dialect.assemble stored.selection.columns source texts clause.sql,
            clause.params⟩ := by
  have sound := reached.sound
  refine ⟨sound.select_eq_none_iff, fun error => ?_, fun error failed => ?_,
    fun stored found columns => sound.select_of_columns found columns filter⟩
  · rw [sound.select_eq_error_iff, not_unselective_iff, clause_eq_error_iff]
  · obtain ⟨tree, _, refused⟩ := clause_eq_error_iff.mp (sound.select_eq_error_iff.mp failed).2
    obtain ⟨_, rfl⟩ := Filter.compile_eq_error_iff.mp refused
    rfl

/-- A projection with a join, and one whose only path ends without a column. -/
def shelves : Nat → Projection
  | 0 => ⟨"Book", [⟨"Title", none⟩, ⟨"Author", some "[Person:Id:AuthorId].Name"⟩]⟩
  | _ => ⟨"Astray", [⟨"Name", some "[Person:Id:AuthorId]"⟩]⟩

/-- A session that was asked for both. -/
def browsed : Session Nat :=
  (((Session.default shelves).call (.columns "Books" 0)).session.call
    (.select "Books" none 1)).session

/-- What it keeps of the first. -/
def shelved : Stored :=
  ⟨0, ⟨[⟨"Books", "Title", none⟩, ⟨"Per1", "Name", some "Author"⟩],
    [⟨some .left, "Books", "AuthorId", "Person", "Id", "Per1", "[Person:Id:AuthorId]"⟩]⟩⟩

/-- A refused filter does not count where there are no columns, and is the error where there are. -/
theorem select_of_browsed :
    browsed.Reached ∧
      (browsed.select "Books" (some ⟨none, [], [], none⟩) 1).answer = .ok none ∧
      (browsed.select "Books" (some ⟨none, [], [], none⟩) 0).answer = .error .emptyFilter ∧
      ∃ draft, (browsed.select "Books"
          (some (.ofItems .and [⟨"Title", some .equal, .boolean true⟩])) 0).answer =
            .ok (some draft) ∧
        draft.sql = "SELECT [Books].[Title], [Per1].[Name] AS [Author] " ++
          "FROM [Books] WITH (NOLOCK) LEFT JOIN [Person] AS [Per1] WITH (NOLOCK) " ++
          "ON ([Per1].[Id] = [Books].[AuthorId]) WHERE Title = @FilterValue0" ∧
        draft.params = ⟨[("FilterValue0", .boolean true)]⟩ := by
  have reached : browsed.Reached := .call (.call (.new (.default shelves)) _) _
  have found : (browsed.columns "Books" 0).answer = some shelved := by decide +kernel
  have bare : (browsed.columns "Books" 1).answer = some ⟨1, ⟨[], []⟩⟩ := by decide +kernel
  have columns : shelved.selection.columns ≠ [] := List.cons_ne_nil _ _
  refine ⟨reached, ?_, ?_, ?_⟩
  · exact (select_of_reached reached "Books" _ 1).1.mpr (.inr ⟨_, bare, rfl⟩)
  · exact ((select_of_reached reached "Books" _ 0).2.1 _).mpr
      ⟨⟨shelved, found, columns⟩, _, rfl, rfl⟩
  · have joined : shelved.selection.joins.map browsed.join =
        ["LEFT JOIN [Person] AS [Per1] WITH (NOLOCK) ON ([Per1].[Id] = [Books].[AuthorId])"].map
          .ok := by decide +kernel
    have filtered : browsed.clause
        (some (.ofItems .and [⟨"Title", some .equal, .boolean true⟩])) =
          .ok ⟨"Title = @FilterValue0", ⟨[("FilterValue0", .boolean true)]⟩⟩ := rfl
    obtain ⟨texts, written, answer⟩ := (select_of_reached reached "Books"
      (some (.ofItems .and [⟨"Title", some .equal, .boolean true⟩])) 0).2.2.2 shelved found columns
    obtain rfl := List.map_injective_iff.mpr (fun _ _ => Except.ok.inj) (written.symm.trans joined)
    rw [filtered] at answer
    exact ⟨_, answer, by decide +kernel, rfl⟩

end Session

end PathQuery
