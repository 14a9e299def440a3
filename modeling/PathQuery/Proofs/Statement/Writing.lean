/-
**What is written of a statement.**

A statement is written piece by piece, and only a join of unset kind can stop it. So a statement
that is written to its end is put together from its parts, and its text is that of its outline,
behind what was there before.

* `Outline.write`: the text of an outline;
* `Dialect.joins_of_texts`, `Dialect.kinds_of_joins`: joins are written to the end just when all
  their kinds are set;
* `Statement.write_of_texts`: the text and the values of a statement from its parts;
* `Statement.write_of_outline?`, `Statement.columns_and_kinds_of_write`: a statement is written to
  its end just when it has columns and its joins have kinds.
-/

import Mathlib.Data.List.Basic
import PathQuery.Statement.Outline

namespace PathQuery

namespace JoinLine

/-- A join as it is written behind the words for its kind. -/
def writeTables (dialect : Dialect) (line : JoinLine) : String :=
  dialect.quote line.rightTable ++ " AS " ++ dialect.quote line.name ++ dialect.hint ++ " ON (" ++
    dialect.qualified line.name line.rightColumn ++ " = " ++
    dialect.qualified line.leftTable line.leftColumn ++ ")"

/-- A join as it is written. -/
def write (dialect : Dialect) (line : JoinLine) : String :=
  line.kind.keywords ++ " " ++ line.writeTables dialect

end JoinLine

namespace Outline

/-- The lines of joins, each with the space in front of it. -/
def writeJoins (dialect : Dialect) (lines : List JoinLine) : String :=
  String.join (lines.map fun line => " " ++ line.write dialect)

/-- The condition behind its word, if there is one. -/
def writeCondition : Option String → String
  | none => ""
  | some condition => " WHERE " ++ condition

/-- The text of an outline. -/
def write (dialect : Dialect) (outline : Outline) : String :=
  dialect.head outline.columns outline.source ++ writeJoins dialect outline.joins ++
    writeCondition outline.condition

end Outline

/-! ### Joins -/

theorem Join.mapM_line?_eq_some_iff {joins : List Join} {lines : List JoinLine} :
    joins.mapM Join.line? = some lines ↔ joins.map Join.line? = lines.map some := by
  induction joins generalizing lines with
  | nil =>
    cases lines with
    | nil => exact ⟨fun _ => rfl, fun _ => rfl⟩
    | cons line lines => exact ⟨nofun, nofun⟩
  | cons join joins ih =>
    rw [List.mapM_cons, List.map_cons]
    constructor
    · intro read
      obtain ⟨line, first, read⟩ := Option.bind_eq_some_iff.mp read
      obtain ⟨others, rest, made⟩ := Option.bind_eq_some_iff.mp read
      obtain rfl : line :: others = lines := Option.some.inj made
      rw [first, ih.mp rest, List.map_cons]
    · intro read
      cases lines with
      | nil => cases read
      | cons line lines =>
        rw [List.map_cons, List.cons.injEq] at read
        rw [read.1, ih.mpr read.2]
        rfl

/-- Joins have lines just when all their kinds are set. -/
theorem Join.exists_lines_iff {joins : List Join} :
    (∃ lines : List JoinLine, joins.map Join.line? = lines.map some) ↔
      ∀ join ∈ joins, join.kind ≠ none := by
  induction joins with
  | nil => exact ⟨fun _ => nofun, fun _ => ⟨[], rfl⟩⟩
  | cons join joins ih =>
    rw [List.forall_mem_cons, ← ih]
    constructor
    · rintro ⟨_ | ⟨line, lines⟩, spelled⟩
      · cases spelled
      · rw [List.map_cons, List.map_cons, List.cons.injEq] at spelled
        obtain ⟨kind, set, _⟩ := Option.map_eq_some_iff.mp spelled.1
        exact ⟨Option.ne_none_iff_exists'.mpr ⟨kind, set⟩, lines, spelled.2⟩
    · rintro ⟨first, lines, rest⟩
      obtain ⟨kind, set⟩ := Option.ne_none_iff_exists'.mp first
      obtain ⟨line, made⟩ : ∃ line, join.line? = some line := by
        rw [Join.line?, set]
        exact ⟨_, rfl⟩
      exact ⟨line :: lines, by rw [List.map_cons, made, rest, List.map_cons]⟩

namespace Dialect

variable {dialect : Dialect} {join : Join} {joins : List Join}

theorem join_of_line? {line : JoinLine} (spelled : join.line? = some line) :
    dialect.join join = .ok (line.write dialect) := by
  obtain ⟨kind, set, rfl⟩ := Option.map_eq_some_iff.mp spelled
  simp only [Dialect.join, set, JoinLine.write, JoinLine.writeTables, String.append_assoc]

/-- Joins with lines can all be written. -/
theorem map_join_of_lines {lines : List JoinLine}
    (spelled : joins.map Join.line? = lines.map some) :
    joins.map dialect.join = (lines.map (·.write dialect)).map .ok := by
  induction joins generalizing lines with
  | nil =>
    obtain rfl : lines = [] := List.map_eq_nil_iff.mp spelled.symm
    rfl
  | cons join joins ih =>
    cases lines with
    | nil => cases spelled
    | cons line lines =>
      rw [List.map_cons, List.map_cons, List.cons.injEq] at spelled
      rw [List.map_cons, List.map_cons, List.map_cons, join_of_line? spelled.1, ih spelled.2]

/-- **Joins that can be written are written in front of the others**, behind what is there. -/
theorem joins_append_of_texts {texts : List String}
    (written : joins.map dialect.join = texts.map .ok) (sql : String) (others : List Join) :
    dialect.joins sql (joins ++ others) =
      dialect.joins (sql ++ String.join (texts.map fun text => " " ++ text)) others := by
  induction joins generalizing texts sql with
  | nil =>
    obtain rfl : texts = [] := List.map_eq_nil_iff.mp written.symm
    rw [List.nil_append, List.map_nil, String.join_nil, String.append_empty]
  | cons join joins ih =>
    cases texts with
    | nil => cases written
    | cons text texts =>
      rw [List.map_cons, List.map_cons, List.cons.injEq] at written
      simp only [List.cons_append, Dialect.joins, written.1, ih written.2]
      rw [List.map_cons, String.join_cons, ← String.append_assoc, ← String.append_assoc]

/-- **Joins that can all be written are written to the end**, behind what is there. -/
theorem joins_of_texts {texts : List String} (written : joins.map dialect.join = texts.map .ok)
    (sql : String) :
    dialect.joins sql joins = (sql ++ String.join (texts.map fun text => " " ++ text), none) := by
  have whole := joins_append_of_texts written sql []
  rwa [List.append_nil, Dialect.joins] at whole

/-- Joins can all be written where their kinds are set. -/
theorem exists_texts_of_kinds (dialect : Dialect) (kinds : ∀ join ∈ joins, join.kind ≠ none) :
    ∃ texts : List String, joins.map dialect.join = texts.map .ok := by
  obtain ⟨lines, spelled⟩ := Join.exists_lines_iff.mpr kinds
  exact ⟨_, map_join_of_lines spelled⟩

/-- **Joins that are written to the end have their kinds set.** -/
theorem kinds_of_joins {sql text : String} (written : dialect.joins sql joins = (text, none)) :
    ∀ join ∈ joins, join.kind ≠ none := by
  induction joins generalizing sql with
  | nil => exact nofun
  | cons join joins ih =>
    rw [List.forall_mem_cons]
    cases kind : join.kind with
    | none =>
      simp only [Dialect.joins, Dialect.join, kind] at written
      cases written
    | some kind' =>
      simp only [Dialect.joins, Dialect.join, kind] at written
      exact ⟨nofun, ih written⟩

end Dialect

/-! ### Statements -/

/-- A statement put together from columns, a source table, joins as they are written, and the text
of a condition, which may be empty. -/
def Dialect.assemble (dialect : Dialect) (columns : List Column) (source : String)
    (joins : List String) (condition : String) : String :=
  "SELECT " ++ ", ".intercalate (columns.map dialect.column) ++ " FROM " ++
    dialect.quote source ++ dialect.hint ++ String.join (joins.map fun text => " " ++ text) ++
    if condition = "" then "" else " WHERE " ++ condition

namespace Statement

variable {statement : Statement} {dialect : Dialect}

theorem outline?_eq_some_iff {outline : Outline} :
    statement.outline? = some outline ↔
      ∃ lines, statement.selection.joins.map Join.line? = lines.map some ∧
        outline = ⟨statement.selection.columns, statement.source, lines, statement.condition?⟩ := by
  rw [outline?, Option.map_eq_some_iff]
  constructor
  · rintro ⟨lines, spelled, rfl⟩
    exact ⟨lines, Join.mapM_line?_eq_some_iff.mp spelled, rfl⟩
  · rintro ⟨lines, spelled, rfl⟩
    exact ⟨lines, Join.mapM_line?_eq_some_iff.mpr spelled, rfl⟩

theorem exists_outline_of_kinds
    (kinds : ∀ join ∈ statement.selection.joins, join.kind ≠ none) :
    ∃ outline, statement.outline? = some outline := by
  obtain ⟨lines, spelled⟩ := Join.exists_lines_iff.mpr kinds
  exact ⟨_, outline?_eq_some_iff.mpr ⟨lines, spelled, rfl⟩⟩

/-- The text of the condition, which is empty where there is none. -/
def conditionText (statement : Statement) : String := (statement.filter.map (·.sql)).getD ""

/-- The values of a statement behind those that are there. A condition without text brings none. -/
def values (statement : Statement) (before : Params) : Params :=
  match statement.filter with
  | none => before
  | some clause => if clause.sql = "" then before else before.extend clause.params

/-- **A statement with columns whose joins can be written is put together from its parts**, behind
what is there. -/
theorem write_of_texts {texts : List String} (columns : statement.selection.columns ≠ [])
    (written : statement.selection.joins.map dialect.join = texts.map .ok) (draft : Draft) :
    statement.write dialect draft =
      (⟨draft.sql ++ dialect.assemble statement.selection.columns statement.source texts
          statement.conditionText,
        statement.values draft.params⟩, none) := by
  have some : statement.selection.columns.isEmpty = false := by simpa using columns
  simp only [write, some, Dialect.joins_of_texts written, Dialect.assemble, Dialect.head,
    Bool.false_eq_true, if_false]
  cases filter : statement.filter with
  | none => simp [conditionText, values, filter, String.append_assoc]
  | some clause =>
    by_cases empty : clause.sql = ""
    · simp [conditionText, values, filter, empty, String.append_assoc]
    · simp [conditionText, values, filter, empty, String.append_assoc]

theorem writeCondition_condition? (statement : Statement) :
    Outline.writeCondition statement.condition? =
      if statement.conditionText = "" then "" else " WHERE " ++ statement.conditionText := by
  rw [condition?, conditionText]
  cases statement.filter with
  | none => rfl
  | some clause =>
    by_cases empty : clause.sql = ""
    · simp [Option.filter, empty, Outline.writeCondition]
    · simp [Option.filter, empty, Outline.writeCondition]

/-- **A statement with columns and an outline is written as its outline**, behind what is there. -/
theorem write_of_outline? {outline : Outline} (spoken : statement.outline? = some outline)
    (columns : statement.selection.columns ≠ []) (draft : Draft) :
    ∃ params, statement.write dialect draft =
      (⟨draft.sql ++ outline.write dialect, params⟩, none) := by
  obtain ⟨lines, spelled, rfl⟩ := outline?_eq_some_iff.mp spoken
  have same : Outline.write dialect ⟨statement.selection.columns, statement.source, lines,
      statement.condition?⟩ = dialect.assemble statement.selection.columns statement.source
        (lines.map (·.write dialect)) statement.conditionText := by
    rw [Outline.write, writeCondition_condition?, Dialect.head, Outline.writeJoins,
      Dialect.assemble, List.map_map]
    rfl
  rw [same, write_of_texts columns (Dialect.map_join_of_lines spelled)]
  exact ⟨_, rfl⟩

/-- **A statement that is written to its end has columns, and its joins have kinds.** -/
theorem columns_and_kinds_of_write {draft written : Draft}
    (done : statement.write dialect draft = (written, none)) :
    statement.selection.columns ≠ [] ∧ ∀ join ∈ statement.selection.joins, join.kind ≠ none := by
  unfold write at done
  split at done
  · cases done
  · rename_i columns
    refine ⟨by simpa using columns, ?_⟩
    dsimp only at done
    split at done
    · cases done
    · rename_i sql joined
      exact Dialect.kinds_of_joins joined

end Statement

end PathQuery
