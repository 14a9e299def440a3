/-
**No value ever shows in a text.**

A statement is written under the condition of a filter, and this is the same for all values. So are
the errors, and whether there is a statement at all.

* `Statement.write_mapValues`, `Session.select_mapValues`: values can be changed in a filter or in
  what is selected under it;
* `Session.binds_of_select`: what is selected has the values of its filter, each by the name for its
  address;
* `Filter.sameText_of_eraseValues`: filters that are equal but for their values come to the same
  texts, with the values of each.
-/

import PathQuery.Proofs.Filter.Address
import PathQuery.Proofs.Session.Selecting

namespace PathQuery

variable (change : Value → Value)

/-! ### Statements -/

/-- A draft with other values. -/
def Draft.mapValues (draft : Draft) : Draft :=
  { draft with params := draft.params.mapValues change }

namespace Statement

/-- A statement with other values in its condition. -/
def mapValues (statement : Statement) : Statement :=
  { statement with filter := statement.filter.map (Clause.mapValues change) }

/-- **A statement with other values is written as the same text**, or not written all the same. -/
theorem write_mapValues (statement : Statement) (dialect : Dialect) (draft : Draft) :
    (statement.mapValues change).write dialect (draft.mapValues change) =
      ((statement.write dialect draft).1.mapValues change,
        (statement.write dialect draft).2) := by
  obtain ⟨source, selection, filter⟩ := statement
  unfold write mapValues Draft.mapValues
  dsimp only
  split
  · rfl
  · split
    · rfl
    · cases filter with
      | none => rfl
      | some clause =>
        dsimp only [Option.map_some, Clause.mapValues]
        split
        · rfl
        · rw [Params.mapValues_extend]

/-- What is written to the end has the values of the statement behind those that were there. -/
theorem params_of_write {statement : Statement} {dialect : Dialect} {draft written : Draft}
    (done : statement.write dialect draft = (written, none)) :
    written.params = statement.values draft.params := by
  obtain ⟨columns, kinds⟩ := columns_and_kinds_of_write done
  obtain ⟨texts, joined⟩ := dialect.exists_texts_of_kinds kinds
  rw [write_of_texts columns joined] at done
  cases done
  rfl

end Statement

/-! ### Sessions -/

namespace Session

variable {κ : Type} (session : Session κ)

theorem filter?_mapValues (filter : Option Filter) :
    session.filter? (filter.map (Filter.mapValues change)) =
      ((session.filter? filter).1.map (Option.map (Clause.mapValues change)),
        (session.filter? filter).2) := by
  cases filter with
  | none => rfl
  | some filter =>
    simp only [filter?, Option.map_some, Session.filter, Filter.compile_mapValues]
    cases (filter.compile (session.settings.style session.dialect)).1 <;> rfl

theorem write_mapValues (statement : Statement) :
    session.write (statement.mapValues change) =
      (session.write statement).map (Draft.mapValues change) := by
  have empty : Draft.empty = Draft.empty.mapValues change := rfl
  unfold write
  rw [empty, Statement.write_mapValues, ← empty]
  rcases statement.write session.dialect .empty with ⟨draft, _ | error⟩ <;> rfl

theorem draft_mapValues (source : String) (filter : Option Filter)
    (selection : Option Selection) :
    session.draft source (filter.map (Filter.mapValues change)) selection =
      ((session.draft source filter selection).1.map (Option.map (Draft.mapValues change)),
        (session.draft source filter selection).2) := by
  cases selection with
  | none => rfl
  | some selection =>
    unfold draft
    dsimp only
    split
    · rfl
    · rw [filter?_mapValues]
      cases (session.filter? filter).1 with
      | error error => rfl
      | ok clause =>
        have written := session.write_mapValues change ⟨source, selection, clause⟩
        have same : (⟨source, selection, clause⟩ : Statement).mapValues change =
            ⟨source, selection, clause.map (Clause.mapValues change)⟩ := rfl
        rw [same] at written
        simp only [Except.map, bind, Except.bind, Functor.map, written]
        cases session.write ⟨source, selection, clause⟩ <;> rfl

variable {session}

theorem params_of_write {statement : Statement} {draft : Draft}
    (written : session.write statement = .ok draft) : draft.params = statement.values .empty := by
  unfold write at written
  split at written
  · cases written
  · rename_i done
    cases written
    exact Statement.params_of_write done

/-- A draft is written under the condition of its filter. -/
theorem exists_clause_of_draft {source : String} {filter : Option Filter} {selection : Selection}
    {draft : Draft}
    (drafted : (session.draft source filter (some selection)).1 = .ok (some draft)) :
    ∃ clause, (session.filter? filter).1 = .ok clause ∧
      session.write ⟨source, selection, clause⟩ = .ok draft := by
  unfold Session.draft at drafted
  dsimp only at drafted
  split at drafted
  · cases drafted
  · cases compiled : (session.filter? filter).1 with
    | error error =>
      rw [compiled] at drafted
      cases drafted
    | ok clause =>
      refine ⟨clause, rfl, ?_⟩
      rw [compiled] at drafted
      simp only [bind, Except.bind, Functor.map, Except.map] at drafted
      split at drafted
      · cases drafted
      · cases drafted
        assumption

/-- **A draft has the values of its filter.** -/
theorem binds_of_draft {source : String} {filter : Filter} {selection : Option Selection}
    {draft : Draft}
    (drafted : (session.draft source (some filter) selection).1 = .ok (some draft)) :
    filter.Binds (session.settings.style session.dialect) draft.params := by
  cases selection with
  | none => cases drafted
  | some selection =>
    obtain ⟨clause, given, written⟩ := exists_clause_of_draft drafted
    have mapped : (session.filter filter).1.map some = .ok clause := given
    cases compiled : (session.filter filter).1 with
    | error error =>
      rw [compiled] at mapped
      cases mapped
    | ok found =>
      rw [compiled] at mapped
      cases mapped
      rw [params_of_write written, values_of_filter compiled rfl]
      exact Filter.binds_of_compile compiled

variable (session) [DecidableEq κ]

/-- **Under a filter with other values the same is selected**, with its own values. -/
theorem select_mapValues (source : String) (filter : Option Filter) (key : κ) :
    session.select source (filter.map (Filter.mapValues change)) key =
      { session.select source filter key with
        answer := (session.select source filter key).answer.map
          (Option.map (Draft.mapValues change)) } := by
  rw [select_eq, select_eq]
  dsimp only
  rw [draft_mapValues]

/-- **What is selected has the values of its filter.** -/
theorem binds_of_select {session : Session κ} {source : String} {filter : Filter} {key : κ} {draft : Draft}
    (selected : (session.select source (some filter) key).answer = .ok (some draft)) :
    filter.Binds (session.settings.style session.dialect) draft.params := by
  rw [answer_select] at selected
  exact binds_of_draft selected

end Session

/-! ### Filters that are equal but for their values -/

/-- **Results that agree**: both are refused with one error, or what they are is related. -/
inductive Agree {ε α : Type} (related : α → α → Prop) : Except ε α → Except ε α → Prop
  | refused (error : ε) : Agree related (.error error) (.error error)
  | made {left right : α} (same : related left right) : Agree related (.ok left) (.ok right)

/-- Results agree where a change makes them equal, and what is changed to the same is related. -/
theorem agree_of_map_eq {ε α β : Type} {related : α → α → Prop} {image : α → β}
    {first second : Except ε α} (same : first.map image = second.map image)
    (relates : ∀ left right, first = .ok left → second = .ok right → image left = image right →
      related left right) : Agree related first second := by
  cases first with
  | error error =>
    cases second with
    | error error' =>
      cases same
      exact .refused error
    | ok right => cases same
  | ok left =>
    cases second with
    | error error => cases same
    | ok right => exact .made (relates left right rfl rfl (Except.ok.inj same))

/-- A condition as a draft that holds nothing else. -/
def Clause.draft (clause : Clause) : Draft := ⟨clause.sql, clause.params⟩

namespace Filter

/-- A filter without its values. Filters that have this in common are equal but for their values. -/
def eraseValues (filter : Filter) : Filter := filter.mapValues fun _ => .null

/-- **Drafts that differ in the values of two filters only**: their texts are one, their parameters
have the same names, and the value of each is that of the item at one address, for each draft in its
own filter. -/
structure SameText (style : Style) (first second : Filter) (draft other : Draft) : Prop where
  sql : draft.sql = other.sql
  names : draft.params.names = other.params.names
  addresses : first.addresses = second.addresses
  left : first.Binds style draft.params
  right : second.Binds style other.params

section Alike

variable {first second : Filter} (alike : first.eraseValues = second.eraseValues)

include alike

theorem sameText_of_binds {style : Style} {draft other : Draft} (sql : draft.sql = other.sql)
    (left : first.Binds style draft.params) (right : second.Binds style other.params) :
    SameText style first second draft other := by
  have addresses : first.addresses = second.addresses := by
    rw [← addresses_mapValues (fun _ => .null) first,
      ← addresses_mapValues (fun _ => .null) second]
    exact congrArg Filter.addresses alike
  exact ⟨sql, by rw [left.names, right.names, addresses], addresses, left, right⟩

/-- **They compile to one text**, or to one error. -/
theorem agree_of_compile (style : Style) :
    (first.compile style).2 = (second.compile style).2 ∧
      Agree (fun clause other => SameText style first second clause.draft other.draft)
        (first.compile style).1 (second.compile style).1 := by
  have erased : first.eraseValues.compile style = second.eraseValues.compile style := by rw [alike]
  unfold eraseValues at erased
  rw [compile_mapValues, compile_mapValues, Prod.mk.injEq] at erased
  refine ⟨erased.2, agree_of_map_eq erased.1 fun clause other left right same => ?_⟩
  have texts := congrArg Clause.sql same
  exact sameText_of_binds alike texts (binds_of_compile left) (binds_of_compile right)

/-- **One text is selected under them**, or none under either, or both are refused with one error. -/
theorem agree_of_select {κ : Type} [DecidableEq κ] (session : Session κ) (source : String)
    (key : κ) :
    (session.select source (some first) key).session =
        (session.select source (some second) key).session ∧
      (session.select source (some first) key).events =
        (session.select source (some second) key).events ∧
      Agree (Option.Rel (SameText (session.settings.style session.dialect) first second))
        (session.select source (some first) key).answer
        (session.select source (some second) key).answer := by
  have erased : session.select source (some first.eraseValues) key =
      session.select source (some second.eraseValues) key := by rw [alike]
  have selects : ∀ filter : Filter, session.select source (some filter.eraseValues) key =
      { session.select source (some filter) key with
        answer := (session.select source (some filter) key).answer.map
          (Option.map (Draft.mapValues fun _ => .null)) } :=
    fun filter => session.select_mapValues (fun _ => .null) source (some filter) key
  rw [selects, selects, Reply.mk.injEq] at erased
  obtain ⟨answers, sessions, events⟩ := erased
  refine ⟨sessions, events, agree_of_map_eq answers fun found found' left right same => ?_⟩
  cases found with
  | none =>
    cases found' with
    | none => exact .none
    | some other => cases same
  | some draft =>
    cases found' with
    | none => cases same
    | some other =>
      have texts := congrArg Draft.sql (Option.some.inj same)
      exact .some (sameText_of_binds alike texts (Session.binds_of_select left)
        (Session.binds_of_select right))

/-- **No value ever shows in a text.** Filters that are equal but for their values compile to the
same text, with parameters of the same names, or are refused with the same error, however conditions
are written. The same is selected under them, whatever the session, the source table and the
projection are: nothing under either, or the same error, or the same text with parameters of the
same names. The value of each parameter is that of the item at one address in either filter. -/
theorem agree_of_eraseValues :
    (∀ style, (first.compile style).2 = (second.compile style).2 ∧
      Agree (fun clause other => SameText style first second clause.draft other.draft)
        (first.compile style).1 (second.compile style).1) ∧
    ∀ {κ : Type} [DecidableEq κ] (session : Session κ) (source : String) (key : κ),
      (session.select source (some first) key).session =
          (session.select source (some second) key).session ∧
        (session.select source (some first) key).events =
          (session.select source (some second) key).events ∧
        Agree (Option.Rel (SameText (session.settings.style session.dialect) first second))
          (session.select source (some first) key).answer
          (session.select source (some second) key).answer :=
  ⟨agree_of_compile alike, agree_of_select alike⟩

end Alike

/-- Two comparisons in groups of their own, with an inert item and an inert group beside them. The
items beside the groups do not count. -/
def searched (title year : Value) : Filter :=
  ⟨some .and, [⟨"Unread", some .equal, year⟩],
    [.ofItems .or [⟨"Inert", none, title⟩, ⟨"Title", some .equal, title⟩], ⟨none, [], [], none⟩,
      .ofItems .and [⟨"Year", some .less, year⟩]], none⟩

/-- With plain values. -/
def plain : Filter := searched (.boolean true) (.boolean false)

/-- With a value that looks like a condition and one that is missing. -/
def smuggling : Filter := searched (.text "x) OR (1 = 1") .null

/-- The values leave the text as it is. The parameters have those of the second item in the first
group and of the first item in the third. -/
theorem agree_of_smuggling :
    plain.eraseValues = smuggling.eraseValues ∧
      ∃ draft other, (Session.browsed.select "Books" (some plain) 0).answer = .ok (some draft) ∧
        (Session.browsed.select "Books" (some smuggling) 0).answer = .ok (some other) ∧
        draft.sql = other.sql ∧ other.params.names = ["FilterValue0", "FilterValue1"] ∧
        draft.params.get? "FilterValue1" = some (.boolean false) ∧
        other.params.get? "FilterValue0" = some (.text "x) OR (1 = 1") ∧
        other.params.get? "FilterValue1" = some .null := by
  have alike : plain.eraseValues = smuggling.eraseValues := rfl
  have selects : (Session.browsed.select "Books" (some plain) 0).answer.toOption.join.isSome =
      true := by decide +kernel
  obtain ⟨_, _, agreed⟩ := (agree_of_eraseValues alike).2 Session.browsed "Books" 0
  generalize (Session.browsed.select "Books" (some plain) 0).answer = answer
    at agreed selects ⊢
  generalize (Session.browsed.select "Books" (some smuggling) 0).answer = answer' at agreed ⊢
  cases agreed with
  | refused error => cases selects
  | made same =>
    cases same with
    | none => cases selects
    | @some draft other same =>
      obtain ⟨_, here, value⟩ := same.left.values 1 ⟨[2], 0⟩ rfl
      obtain ⟨_, first, value'⟩ := same.right.values 0 ⟨[0], 1⟩ rfl
      obtain ⟨_, second, value''⟩ := same.right.values 1 ⟨[2], 0⟩ rfl
      cases here
      cases first
      cases second
      exact ⟨alike, draft, other, rfl, rfl, same.sql, same.right.names.trans rfl, value, value',
        value''⟩

end Filter

end PathQuery
