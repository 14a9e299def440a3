/-
**How statements are spelled.**

The forms that a select list, joins and a whole statement have in SQL, apart from the functions that
write them: quoted names with points, commas, words and parentheses between them. What is written is
of these forms, part by part:

* `Column.spelled_column`, `Join.spelled_of_join`: an entry of a select list, and a join whose kind
  is set;
* `Dialect.spells_assemble`: a statement without a condition;
* `Dialect.assemble_eq`: a condition stands behind such a statement;
* `Dialect.Spells.unique`: a statement is spelled in one way only.
-/

import Mathlib.Data.List.Forall2
import PathQuery.Proofs.Statement.Writing

namespace PathQuery

/-! ### Forms -/

/-- What a dialect puts behind a table. -/
inductive Dialect.Hints : Dialect → String → Prop
  | sqlServer : Hints .sqlServer " WITH (NOLOCK)"
  | postgreSql : Hints .postgreSql ""

/-- The words for a kind of join. -/
inductive JoinKind.Spelled : JoinKind → String → Prop
  | inner : Spelled .inner "INNER JOIN"
  | left : Spelled .left "LEFT JOIN"
  | right : Spelled .right "RIGHT JOIN"
  | fullOuter : Spelled .fullOuter "FULL OUTER JOIN"

/-- **An entry of a select list**: a column of a table, and the label that it is selected under, if
there is one. -/
inductive Column.Spelled (dialect : Dialect) : Column → String → Prop
  | plain (table name : String) :
    Spelled dialect ⟨table, name, none⟩ (dialect.quote table ++ "." ++ dialect.quote name)
  | labelled (table name label : String) :
    Spelled dialect ⟨table, name, some label⟩
      (dialect.quote table ++ "." ++ dialect.quote name ++ " AS " ++ dialect.quote label)

/-- **A join**: the right table under its alias, and the columns that tie it to its left table. -/
inductive Join.Spelled (dialect : Dialect) (join : Join) : String → Prop
  | tied {kind : JoinKind} {words hint : String} (set : join.kind = some kind)
    (introduced : kind.Spelled words) (hinted : dialect.Hints hint) :
    Spelled dialect join (words ++ " " ++ dialect.quote join.rightTable ++ " AS " ++
      dialect.quote join.name ++ hint ++ " ON (" ++ dialect.quote join.name ++ "." ++
      dialect.quote join.rightColumn ++ " = " ++ dialect.quote join.leftTable ++ "." ++
      dialect.quote join.leftColumn ++ ")")

/-- **A statement without a condition**: the entries of its select list with commas between them,
its source table, and its joins with a space in front of each. -/
inductive Dialect.Spells (dialect : Dialect) (columns : List Column) (source : String)
    (joins : List Join) : String → Prop
  | select {entries lines : List String} {hint : String}
    (selected : List.Forall₂ (Column.Spelled dialect) columns entries)
    (hinted : dialect.Hints hint)
    (joined : List.Forall₂ (Join.Spelled dialect) joins lines) :
    Spells dialect columns source joins ("SELECT " ++ ", ".intercalate entries ++ " FROM " ++
      dialect.quote source ++ hint ++ String.join (lines.map fun line => " " ++ line))

/-! ### One spelling each -/

theorem Dialect.Hints.unique {dialect : Dialect} {hint other : String}
    (hinted : dialect.Hints hint) (also : dialect.Hints other) : hint = other := by
  cases hinted with
  | sqlServer => cases also with | sqlServer => rfl
  | postgreSql => cases also with | postgreSql => rfl

theorem JoinKind.Spelled.unique {kind : JoinKind} {words other : String}
    (spelled : kind.Spelled words) (also : kind.Spelled other) : words = other := by
  cases spelled with
  | inner => cases also with | inner => rfl
  | left => cases also with | left => rfl
  | right => cases also with | right => rfl
  | fullOuter => cases also with | fullOuter => rfl

theorem Column.rightUnique_spelled (dialect : Dialect) :
    Relator.RightUnique (Column.Spelled dialect) := by
  intro column entry other spelled also
  cases spelled with
  | plain => cases also with | plain => rfl
  | labelled => cases also with | labelled => rfl

theorem Join.rightUnique_spelled (dialect : Dialect) :
    Relator.RightUnique (Join.Spelled dialect) := by
  rintro join line other ⟨set, introduced, hinted⟩ ⟨set', introduced', hinted'⟩
  rw [set, Option.some.injEq] at set'
  subst set'
  rw [introduced.unique introduced', hinted.unique hinted']

/-- **A statement is spelled in one way only.** -/
theorem Dialect.Spells.unique {dialect : Dialect} {columns : List Column} {source : String}
    {joins : List Join} {text other : String} (spells : dialect.Spells columns source joins text)
    (also : dialect.Spells columns source joins other) : text = other := by
  obtain ⟨selected, hinted, joined⟩ := spells
  obtain ⟨selected', hinted', joined'⟩ := also
  rw [List.right_unique_forall₂' (Column.rightUnique_spelled dialect) selected selected',
    List.right_unique_forall₂' (Join.rightUnique_spelled dialect) joined joined',
    hinted.unique hinted']

/-! ### What is written is of these forms -/

variable {dialect : Dialect}

theorem Dialect.hints_hint (dialect : Dialect) : dialect.Hints dialect.hint := by
  cases dialect with
  | sqlServer => exact .sqlServer
  | postgreSql => exact .postgreSql

theorem JoinKind.spelled_keywords (kind : JoinKind) : kind.Spelled kind.keywords := by
  cases kind with
  | inner => exact .inner
  | left => exact .left
  | right => exact .right
  | fullOuter => exact .fullOuter

theorem Column.spelled_column (dialect : Dialect) (column : Column) :
    column.Spelled dialect (dialect.column column) := by
  obtain ⟨table, name, label⟩ := column
  unfold Dialect.column Dialect.qualified
  cases label with
  | none =>
    rw [String.append_empty]
    exact .plain table name
  | some label =>
    rw [← String.append_assoc]
    exact .labelled table name label

/-- **A join that can be written is spelled as one.** -/
theorem Join.spelled_of_join {join : Join} {text : String}
    (written : dialect.join join = .ok text) : join.Spelled dialect text := by
  unfold Dialect.join Dialect.qualified at written
  cases set : join.kind with
  | none =>
    rw [set] at written
    cases written
  | some kind =>
    rw [set] at written
    have spelled := Join.Spelled.tied set kind.spelled_keywords dialect.hints_hint
    obtain rfl := Except.ok.inj written
    simpa only [String.append_assoc] using spelled

/-- Joins that can all be written are spelled one by one. -/
theorem Join.forall₂_spelled {joins : List Join} {texts : List String}
    (written : joins.map dialect.join = texts.map .ok) :
    List.Forall₂ (Join.Spelled dialect) joins texts := by
  induction joins generalizing texts with
  | nil =>
    obtain rfl : texts = [] := List.map_eq_nil_iff.mp written.symm
    exact .nil
  | cons join joins ih =>
    cases texts with
    | nil => cases written
    | cons text texts =>
      rw [List.map_cons, List.map_cons, List.cons.injEq] at written
      exact .cons (spelled_of_join written.1) (ih written.2)

namespace Dialect

variable {joins : List Join} {texts : List String}

/-- **A statement that is put together without a condition is spelled as one.** -/
theorem spells_assemble (columns : List Column) (source : String)
    (written : joins.map dialect.join = texts.map .ok) :
    dialect.Spells columns source joins (dialect.assemble columns source texts "") := by
  have selected : List.Forall₂ (Column.Spelled dialect) columns (columns.map dialect.column) :=
    List.forall₂_map_right_iff.mpr
      (List.forall₂_same.mpr fun column _ => column.spelled_column dialect)
  unfold assemble
  rw [if_pos rfl, String.append_empty]
  exact .select selected dialect.hints_hint (Join.forall₂_spelled written)

/-- **A condition stands behind the rest of a statement.** -/
theorem assemble_eq (columns : List Column) (source condition : String) (texts : List String) :
    dialect.assemble columns source texts condition =
      dialect.assemble columns source texts "" ++
        if condition = "" then "" else " WHERE " ++ condition := by
  unfold assemble
  rw [if_pos rfl, String.append_empty]

end Dialect

end PathQuery
