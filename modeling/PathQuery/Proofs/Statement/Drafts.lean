/-
**What a statement does to a draft.**

A statement is written behind what a draft holds, and there are three ways for that to go. Without
columns nothing happens. A join of unset kind ends the writing in the middle: what stands in front
of it is written, and no value is bound. Any other statement is written whole. What is written is
spelled out (`Dialect.Spells`).

* `Join.exists_firstUnset`: joins of which one has no kind have a first one of these;
* `write_of_firstUnset`: how far a statement is written that is stopped by a join;
* `params_of_values`: what the names of parameters look up behind a statement;
* `write_by_cases`: which statements are refused, with which error, and what becomes of the draft.
-/

import PathQuery.Proofs.Statement.Spelling

namespace PathQuery

/-- **A join is the first of unset kind**, behind joins whose kinds are set. -/
structure Join.FirstUnset (joins earlier : List Join) (join : Join) : Prop where
  place : ∃ later, joins = earlier ++ join :: later
  set : ∀ other ∈ earlier, other.kind ≠ none
  unset : join.kind = none

/-- Among joins of which one has no kind there is a first. -/
theorem Join.exists_firstUnset {joins : List Join} (unset : ∃ join ∈ joins, join.kind = none) :
    ∃ earlier join, FirstUnset joins earlier join := by
  induction joins with
  | nil => simp at unset
  | cons join joins ih =>
    by_cases here : join.kind = none
    · exact ⟨[], join, ⟨joins, rfl⟩, by simp, here⟩
    · obtain ⟨other, listed, none⟩ := unset
      rcases List.mem_cons.mp listed with rfl | later
      · exact absurd none here
      · obtain ⟨earlier, first, ⟨behind, place⟩, set, found⟩ := ih ⟨other, later, none⟩
        exact ⟨join :: earlier, first, ⟨behind, congrArg (join :: ·) place⟩,
          List.forall_mem_cons.mpr ⟨here, set⟩, found⟩

namespace Statement

variable {statement : Statement} {dialect : Dialect}

/-- **A join of unset kind ends the writing**, behind the joins in front of it and one space. -/
theorem write_of_firstUnset {earlier : List Join} {join : Join} {texts : List String}
    (columns : statement.selection.columns ≠ [])
    (first : Join.FirstUnset statement.selection.joins earlier join)
    (written : earlier.map dialect.join = texts.map .ok) (draft : Draft) :
    statement.write dialect draft =
      (⟨draft.sql ++ dialect.assemble statement.selection.columns statement.source texts "" ++ " ",
        draft.params⟩, some (.unsetJoinKind join.segment)) := by
  obtain ⟨later, place⟩ := first.place
  have inhabited : ¬ statement.selection.columns.isEmpty = true := by simpa using columns
  unfold write
  rw [if_neg inhabited, place]
  simp only [Dialect.joins_append_of_texts written, Dialect.joins, Dialect.join, first.unset]
  simp only [Dialect.assemble, Dialect.head, if_true, String.append_empty, String.append_assoc]

/-- **What stands behind the joins**: the condition behind its word, if it has a text. -/
theorem writeCondition_of_filter (statement : Statement) :
    (∀ clause, statement.filter = some clause → clause.sql ≠ "" →
      Outline.writeCondition statement.condition? = " WHERE " ++ clause.sql) ∧
    ((∀ clause, statement.filter = some clause → clause.sql = "") →
      Outline.writeCondition statement.condition? = "") := by
  rw [writeCondition_condition?, conditionText]
  constructor
  · intro clause filter text
    rw [filter]
    exact if_neg text
  · intro none
    cases filter : statement.filter with
    | none => rfl
    | some clause => exact if_pos (none clause filter)

/-- **What the names of parameters look up behind a statement**: the values of its condition first,
if the condition has a text. The values of a condition have different names. -/
theorem params_of_values (before : Params) :
    (∀ clause, statement.filter = some clause → clause.sql ≠ "" → clause.params.names.Nodup →
      ∀ name, (statement.values before).get? name =
        (clause.params.get? name).or (before.get? name)) ∧
    ((∀ clause, statement.filter = some clause → clause.sql = "") →
      statement.values before = before) := by
  unfold values
  constructor
  · intro clause filter text distinct name
    rw [filter]
    show Params.get? (if clause.sql = "" then before else before.extend clause.params) name = _
    rw [if_neg text, Params.get?_extend distinct]
  · intro none
    cases filter : statement.filter with
    | none => rfl
    | some clause => exact if_pos (none clause filter)

/-- **What a statement does to a draft.** It is refused just when it has no columns or a join of
unset kind. Without columns the draft stays as it was; with a join of unset kind the select list,
the source table and the joins in front of the first such join are written with a space behind them,
and the values stay. Any other statement is written behind the text that is there, with one text for
every draft, and its values are bound over those that are there if it has a condition. -/
theorem write_by_cases (statement : Statement) (dialect : Dialect) :
    (∀ draft, (statement.write dialect draft).2 = none ↔
      statement.selection.columns ≠ [] ∧ ∀ join ∈ statement.selection.joins, join.kind ≠ none) ∧
    (statement.selection.columns = [] → ∃ error : Error, error.kind = .invalidState ∧
      error.detail = "no columns resolved for " ++ statement.source ∧
      ∀ draft, statement.write dialect draft = (draft, some error)) ∧
    ((∃ join ∈ statement.selection.joins, join.kind = none) →
      ∃ earlier join, Join.FirstUnset statement.selection.joins earlier join) ∧
    (∀ earlier join, statement.selection.columns ≠ [] →
      Join.FirstUnset statement.selection.joins earlier join → ∃ (error : Error) (text : String),
        error.kind = .invalidState ∧
        error.detail = "join type must be set for join " ++ join.segment ∧
        dialect.Spells statement.selection.columns statement.source earlier text ∧
        ∀ draft, statement.write dialect draft =
          (⟨draft.sql ++ text ++ " ", draft.params⟩, some error)) ∧
    (statement.selection.columns ≠ [] → (∀ join ∈ statement.selection.joins, join.kind ≠ none) →
      ∃ text condition : String,
        dialect.Spells statement.selection.columns statement.source statement.selection.joins text ∧
        (∀ clause, statement.filter = some clause → clause.sql ≠ "" →
          condition = " WHERE " ++ clause.sql) ∧
        ((∀ clause, statement.filter = some clause → clause.sql = "") → condition = "") ∧
        ∀ draft, ∃ params,
          statement.write dialect draft = (⟨draft.sql ++ (text ++ condition), params⟩, none) ∧
          (∀ clause, statement.filter = some clause → clause.sql ≠ "" →
            clause.params.names.Nodup → ∀ name,
              params.get? name = (clause.params.get? name).or (draft.params.get? name)) ∧
          ((∀ clause, statement.filter = some clause → clause.sql = "") →
            params = draft.params)) := by
  refine ⟨fun draft => ⟨fun done => ?_, ?_⟩, fun columns => ?_, Join.exists_firstUnset, ?_, ?_⟩
  · exact columns_and_kinds_of_write (Prod.ext rfl done)
  · rintro ⟨columns, kinds⟩
    obtain ⟨texts, written⟩ := Dialect.exists_texts_of_kinds dialect kinds
    rw [write_of_texts columns written]
  · exact ⟨.noColumns statement.source, rfl, rfl,
      fun draft => write_of_no_columns dialect draft columns⟩
  · intro earlier join columns first
    obtain ⟨texts, written⟩ := Dialect.exists_texts_of_kinds dialect first.set
    exact ⟨.unsetJoinKind join.segment, _, rfl, rfl,
      Dialect.spells_assemble statement.selection.columns statement.source written,
      write_of_firstUnset columns first written⟩
  · intro columns kinds
    obtain ⟨texts, written⟩ := Dialect.exists_texts_of_kinds dialect kinds
    obtain ⟨behind, missing⟩ := statement.writeCondition_of_filter
    refine ⟨_, _, Dialect.spells_assemble statement.selection.columns statement.source written,
      behind, missing, fun draft => ⟨_, ?_, params_of_values draft.params⟩⟩
    rw [write_of_texts columns written, Dialect.assemble_eq, writeCondition_condition?]

/-- A statement that is stopped by its second join, although the third has no kind either. -/
def stopped : Statement :=
  ⟨"T", ⟨[⟨"T", "Id", none⟩, ⟨"A1", "]", some "a"⟩],
    [⟨some .inner, "T", "B", "A", "Id", "A1", "[A:Id:B]"⟩,
      ⟨none, "A1", "C", "B", "Id", "B1", "[B:Id:C]"⟩,
      ⟨none, "B1", "D", "C", "Id", "C1", "[C:Id:D]"⟩]⟩, none⟩

/-- The same without these two joins, under a condition. -/
def resumed : Statement :=
  { stopped with
    selection := { stopped.selection with joins := stopped.selection.joins.take 1 }
    filter := some ⟨"T.Id = @p0", ⟨[("p0", .int 2)]⟩⟩ }

/-- A draft that binds the parameter of that condition already, and another one. -/
def begun : Draft := ⟨"EXPLAIN ", ⟨[("p0", .int 1), ("p1", .boolean true)]⟩⟩

theorem cases_of_stopped :
    (∃ error : Error, error.kind = .invalidState ∧
      error.detail = "join type must be set for join [B:Id:C]" ∧
      stopped.write .sqlServer begun =
        (⟨"EXPLAIN SELECT [T].[Id], [A1].[]]] AS [a] FROM [T] WITH (NOLOCK) " ++
          "INNER JOIN [A] AS [A1] WITH (NOLOCK) ON ([A1].[Id] = [T].[B]) ", begun.params⟩,
          some error)) ∧
    ∃ params : Params,
      resumed.write .postgreSql begun =
        (⟨"EXPLAIN SELECT \"T\".\"Id\", \"A1\".\"]\" AS \"a\" FROM \"T\" " ++
          "INNER JOIN \"A\" AS \"A1\" ON (\"A1\".\"Id\" = \"T\".\"B\") WHERE T.Id = @p0",
          params⟩, none) ∧
      params.get? "p0" = some (.int 2) ∧ params.get? "p1" = some (.boolean true) := by
  obtain ⟨_, _, _, stops, _⟩ := write_by_cases stopped .sqlServer
  obtain ⟨_, _, _, _, ends⟩ := write_by_cases resumed .postgreSql
  have first : Join.FirstUnset stopped.selection.joins resumed.selection.joins
      ⟨none, "A1", "C", "B", "Id", "B1", "[B:Id:C]"⟩ := ⟨⟨_, rfl⟩, by decide, rfl⟩
  obtain ⟨error, front, kind, detail, spelled, draft⟩ := stops _ _ (by decide) first
  obtain ⟨text, condition, spelled', behind, _, whole⟩ := ends (by decide) (by decide)
  obtain ⟨params, done, values, _⟩ := whole begun
  have bound := values _ rfl (by decide) (by decide)
  have texts : Dialect.sqlServer.Spells stopped.selection.columns stopped.source
      resumed.selection.joins ("SELECT [T].[Id], [A1].[]]] AS [a] FROM [T] WITH (NOLOCK) " ++
        "INNER JOIN [A] AS [A1] WITH (NOLOCK) ON ([A1].[Id] = [T].[B])") :=
    .select (.cons (.plain _ _) (.cons (.labelled _ _ _) .nil)) .sqlServer
      (.cons (.tied rfl .inner .sqlServer) .nil)
  have texts' : Dialect.postgreSql.Spells resumed.selection.columns resumed.source
      resumed.selection.joins ("SELECT \"T\".\"Id\", \"A1\".\"]\" AS \"a\" FROM \"T\" " ++
        "INNER JOIN \"A\" AS \"A1\" ON (\"A1\".\"Id\" = \"T\".\"B\")") :=
    .select (.cons (.plain _ _) (.cons (.labelled _ _ _) .nil)) .postgreSql
      (.cons (.tied rfl .inner .postgreSql) .nil)
  obtain rfl := spelled.unique texts
  obtain rfl := spelled'.unique texts'
  rw [behind _ rfl (by decide)] at done
  exact ⟨⟨error, kind, detail, draft begun⟩, params, done, bound "p0", bound "p1"⟩

end Statement

end PathQuery
