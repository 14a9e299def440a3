/-
**A written statement is read back.**

Every part of a statement is read where it stands: a name ends at its closing mark whatever it
holds, and what may follow a part is told apart from what would go on with it.

* `Dialect.run_scanColumn`, `Dialect.run_scanNextJoin`: an entry of a select list and a join are
  read in front of everything that can follow them;
* `Outline.ofText?_write`: the text of an outline is read as that outline;
* `Statement.outline_of_write`: so the text of a statement tells what the statement says, and
  statements with one text say the same.
-/

import PathQuery.Proofs.Statement.Writing
import PathQuery.Proofs.Text.Scan

namespace PathQuery

open Text

/-! ### Entries of a select list -/

namespace Dialect

variable {dialect : Dialect}

/-- What may stand behind an entry of a select list: nothing that could go on with it. -/
def EndsEntry (dialect : Dialect) (rest : List Char) : Prop :=
  rest.head? ≠ some dialect.closing ∧ ¬ " AS ".toList <+: rest

theorem endsEntry_comma (dialect : Dialect) (rest : List Char) :
    dialect.EndsEntry (", ".toList ++ rest) := by
  constructor
  · cases dialect <;> simp [closing]
  · simp

theorem endsEntry_from (dialect : Dialect) (rest : List Char) :
    dialect.EndsEntry (" FROM ".toList ++ rest) := by
  constructor
  · cases dialect <;> simp [closing]
  · simp

/-- **An entry of a select list is read whole**, with its label if it has one. -/
theorem run_scanColumn (column : Column) {rest : List Char} (ends : dialect.EndsEntry rest) :
    (dialect.scanColumn).run ((dialect.column column).toList ++ rest) = some (column, rest) := by
  obtain ⟨table, name, label⟩ := column
  cases label with
  | none =>
    have qualified := dialect.run_scanQualified table name ends.1
    have absent := Scan.run_literal_of_not_prefix ends.2
    rw [scanColumn, column, String.append_empty]
    simp only [StateT.run_bind, qualified, absent, Option.bind_eq_bind, Option.bind_some]
    rfl
  | some label =>
    have apart : (" AS ".toList ++ ((dialect.quote label).toList ++ rest)).head? ≠
        some dialect.closing := by
      cases dialect <;> simp [closing]
    have qualified := dialect.run_scanQualified table name apart
    have present := Scan.run_literal " AS ".toList ((dialect.quote label).toList ++ rest)
    have named := dialect.run_scanIdentifier_of_ends label ends.1
    rw [scanColumn, column, String.toList_append, String.toList_append, List.append_assoc,
      List.append_assoc]
    simp only [StateT.run_bind, qualified, present, named, Option.bind_eq_bind, Option.bind_some,
      if_true]
    rfl

theorem run_scanNextColumn (column : Column) {rest : List Char} (ends : dialect.EndsEntry rest) :
    (dialect.scanNextColumn).run (", ".toList ++ (dialect.column column).toList ++ rest) =
      some (some column, rest) := by
  have comma := Scan.run_literal ", ".toList ((dialect.column column).toList ++ rest)
  have read := run_scanColumn column ends
  rw [List.append_assoc, scanNextColumn]
  simp only [StateT.run_bind, comma, Option.bind_eq_bind, Option.bind_some, if_true,
    StateT.run_map, read, Option.map_eq_map, Option.map_some]

theorem run_scanNextColumn_from (rest : List Char) :
    (dialect.scanNextColumn).run (" FROM ".toList ++ rest) = some (none, " FROM ".toList ++ rest) := by
  have absent : ¬ ", ".toList <+: " FROM ".toList ++ rest := by simp
  rw [scanNextColumn]
  simp only [StateT.run_bind, Scan.run_literal_of_not_prefix absent, Option.bind_eq_bind,
    Option.bind_some]
  rfl

/-- **A select list is read to its end.** -/
theorem run_many_scanNextColumn (columns : List Column) (rest : List Char) :
    StateT.run (Scan.many dialect.scanNextColumn : Scan (List Column))
        (columns.flatMap (fun column => ", ".toList ++ (dialect.column column).toList) ++
          (" FROM ".toList ++ rest)) = some (columns, " FROM ".toList ++ rest) := by
  have inhabited (column : Column) : ", ".toList ++ (dialect.column column).toList ≠ [] := by simp
  have starts (column : Column) (rest : List Char) :
      dialect.EndsEntry (", ".toList ++ (dialect.column column).toList ++ rest) := by
    rw [List.append_assoc]
    exact dialect.endsEntry_comma _
  exact Scan.many_flatMap inhabited starts (fun column _ ends => run_scanNextColumn column ends)
    (dialect.endsEntry_from rest) (run_scanNextColumn_from rest) columns

end Dialect

/-! ### Joins -/

namespace JoinKind

/-- The words of a kind of join with the spaces around them. -/
def words (kind : JoinKind) : String := " " ++ kind.keywords ++ " "

theorem not_prefix_words {kind other : JoinKind} (differs : kind ≠ other) (rest : List Char) :
    ¬ kind.words.toList <+: other.words.toList ++ rest := by
  cases kind <;> cases other <;> first | exact absurd rfl differs | simp [words, keywords]

theorem scan_eq : JoinKind.scan = do
    if ← Scan.literal inner.words.toList then return some .inner
    else if ← Scan.literal left.words.toList then return some .left
    else if ← Scan.literal right.words.toList then return some .right
    else if ← Scan.literal fullOuter.words.toList then return some .fullOuter
    else return none := rfl

/-- **The words of a kind of join are told from those of the others.** -/
theorem run_scan (kind : JoinKind) (rest : List Char) :
    JoinKind.scan.run (kind.words.toList ++ rest) = some (some kind, rest) := by
  have present := Scan.run_literal kind.words.toList rest
  have absent : ∀ other, other ≠ kind →
      (Scan.literal other.words.toList).run (kind.words.toList ++ rest) =
        some (false, kind.words.toList ++ rest) :=
    fun other differs => Scan.run_literal_of_not_prefix (not_prefix_words differs rest)
  rw [scan_eq]
  cases kind with
  | inner =>
    simp only [StateT.run_bind, present, Option.bind_eq_bind, Option.bind_some, if_true]
    rfl
  | left =>
    simp only [StateT.run_bind, absent inner nofun, present, Option.bind_eq_bind,
      Option.bind_some, Bool.false_eq_true, if_false, if_true]
    rfl
  | right =>
    simp only [StateT.run_bind, absent inner nofun, absent left nofun, present,
      Option.bind_eq_bind, Option.bind_some, Bool.false_eq_true, if_false, if_true]
    rfl
  | fullOuter =>
    simp only [StateT.run_bind, absent inner nofun, absent left nofun, absent right nofun,
      present, Option.bind_eq_bind, Option.bind_some, Bool.false_eq_true, if_false, if_true]
    rfl

/-- A text that begins with the words of no kind is no join. -/
theorem run_scan_of_absent {text : List Char}
    (absent : ∀ kind : JoinKind, ¬ kind.words.toList <+: text) :
    JoinKind.scan.run text = some (none, text) := by
  rw [scan_eq]
  simp only [StateT.run_bind, Scan.run_literal_of_not_prefix (absent _), Option.bind_eq_bind,
    Option.bind_some, Bool.false_eq_true, if_false]
  rfl

end JoinKind

/-- Neither the end of a text nor a condition is a join. -/
theorem JoinKind.run_scan_condition (condition : Option String) :
    JoinKind.scan.run (Outline.writeCondition condition).toList =
      some (none, (Outline.writeCondition condition).toList) := by
  refine run_scan_of_absent fun kind => ?_
  cases condition <;> cases kind <;> simp [words, keywords, Outline.writeCondition]

namespace Dialect

variable {dialect : Dialect}

theorem closing_ne_parenthesis (dialect : Dialect) : ')' ≠ dialect.closing := by
  cases dialect <;> decide

/-- The names of a join are read where they stand, and the alias is the same both times. -/
theorem run_scanJoin (line : JoinLine) (rest : List Char) :
    (dialect.scanJoin line.kind).run ((line.writeTables dialect).toList ++ rest) =
      some (line, rest) := by
  obtain ⟨kind, rightTable, name, rightColumn, leftTable, leftColumn⟩ := line
  -- What stands behind each name, from the last to the first.
  let behindLeft := [')'] ++ rest
  let behindRight := " = ".toList ++ ((dialect.qualified leftTable leftColumn).toList ++ behindLeft)
  let behindName := dialect.hint.toList ++
    (" ON (".toList ++ ((dialect.qualified name rightColumn).toList ++ behindRight))
  let behindTable := " AS ".toList ++ ((dialect.quote name).toList ++ behindName)
  have text : (JoinLine.writeTables dialect
      ⟨kind, rightTable, name, rightColumn, leftTable, leftColumn⟩).toList ++ rest =
        (dialect.quote rightTable).toList ++ behindTable := by
    simp [JoinLine.writeTables, behindTable, behindName, behindRight, behindLeft]
  have closed : behindLeft.head? ≠ some dialect.closing := by
    simpa [behindLeft] using dialect.closing_ne_parenthesis
  have equal : behindRight.head? ≠ some dialect.closing := dialect.ends_of_space rfl
  have hinted : behindName.head? ≠ some dialect.closing :=
    dialect.ends_of_space (by cases dialect <;> rfl)
  have named : behindTable.head? ≠ some dialect.closing := dialect.ends_of_space rfl
  rw [text, scanJoin]
  simp only [StateT.run_bind, Option.bind_eq_bind, Option.bind_some, Scan.run_exactly,
    dialect.run_scanIdentifier_of_ends rightTable named, behindTable,
    dialect.run_scanIdentifier_of_ends name hinted, behindName,
    dialect.run_scanQualified name rightColumn equal, behindRight,
    dialect.run_scanQualified leftTable leftColumn closed, behindLeft,
    ne_eq, not_true_eq_false, if_false]
  rfl

/-- **A join is read whole**, and nothing that follows can go on with it. -/
theorem run_scanNextJoin (line : JoinLine) (rest : List Char) :
    (dialect.scanNextJoin).run ((" " ++ line.write dialect).toList ++ rest) =
      some (some line, rest) := by
  have written : (" " ++ line.write dialect).toList ++ rest =
      line.kind.words.toList ++ ((line.writeTables dialect).toList ++ rest) := by
    simp [JoinLine.write, JoinKind.words]
  rw [written, scanNextJoin]
  simp only [StateT.run_bind, JoinKind.run_scan, run_scanJoin, Option.bind_eq_bind,
    Option.bind_some, StateT.run_map, Option.map_eq_map, Option.map_some]

theorem run_scanNextJoin_condition (condition : Option String) :
    (dialect.scanNextJoin).run (Outline.writeCondition condition).toList =
      some (none, (Outline.writeCondition condition).toList) := by
  rw [scanNextJoin]
  simp only [StateT.run_bind, JoinKind.run_scan_condition, Option.bind_eq_bind, Option.bind_some]
  rfl

/-- **The joins are read to their end**, which is the condition or the end of the text. -/
theorem run_many_scanNextJoin (lines : List JoinLine) (condition : Option String) :
    StateT.run (Scan.many dialect.scanNextJoin : Scan (List JoinLine))
        (lines.flatMap (fun line => (" " ++ line.write dialect).toList) ++
          (Outline.writeCondition condition).toList) =
      some (lines, (Outline.writeCondition condition).toList) := by
  have inhabited (line : JoinLine) : (" " ++ line.write dialect).toList ≠ [] := by simp
  -- A join ends at its parenthesis, so anything may follow it.
  exact @Scan.many_flatMap _ dialect.scanNextJoin _ (fun _ => True) inhabited
    (fun _ _ => trivial) (fun line rest _ => run_scanNextJoin line rest) _ trivial
    (run_scanNextJoin_condition condition) lines

end Dialect

/-! ### Outlines -/

namespace Outline

theorem toList_commas (first : String) (others : List String) :
    (", ".intercalate (first :: others)).toList =
      first.toList ++ others.flatMap fun other => ", ".toList ++ other.toList := by
  rw [String.toList_intercalate, List.map_cons]
  induction others generalizing first with
  | nil => simp
  | cons other others ih =>
    rw [List.map_cons, List.intercalate_cons_cons, ih, List.flatMap_cons, List.append_assoc,
      List.append_assoc]

theorem toList_writeJoins (dialect : Dialect) (lines : List JoinLine) :
    (writeJoins dialect lines).toList =
      lines.flatMap fun line => (" " ++ line.write dialect).toList := by
  rw [writeJoins, String.toList_join, List.flatMap_map]

/-- Behind the source stands a space, if anything does: that of the hint, of the first join or of the
condition. -/
theorem ends_source (dialect : Dialect) (lines : List JoinLine) (condition : Option String) :
    (dialect.hint.toList ++ (lines.flatMap (fun line => (" " ++ line.write dialect).toList) ++
      (writeCondition condition).toList)).head? ≠ some dialect.closing := by
  cases dialect with
  | sqlServer => exact Dialect.ends_of_space _ rfl
  | postgreSql =>
    have bare : Dialect.postgreSql.hint.toList = [] := rfl
    rw [bare, List.nil_append]
    cases lines with
    | cons line lines =>
      rw [List.flatMap_cons, String.toList_append]
      exact Dialect.ends_of_space _ rfl
    | nil =>
      cases condition with
      | none => exact nofun
      | some condition =>
        rw [writeCondition, String.toList_append]
        exact Dialect.ends_of_space _ rfl

/-- A condition takes all that is left. -/
theorem run_scanCondition {condition : Option String} (spoken : condition ≠ some "") :
    scanCondition.run (writeCondition condition).toList = some (condition, []) := by
  cases condition with
  | none => rfl
  | some condition =>
    have some : condition.toList.isEmpty = false := by simpa using spoken
    have text : (writeCondition (Option.some condition)).toList =
        " WHERE ".toList ++ condition.toList := by simp [writeCondition]
    have more : (" WHERE ".toList ++ condition.toList).isEmpty = false := by simp
    have taken : (Scan.takeWhile fun _ => true).run (condition.toList ++ []) =
        Option.some (condition.toList, []) := Scan.run_takeWhile (fun _ _ => rfl) (by simp)
    rw [List.append_nil] at taken
    rw [text, scanCondition]
    simp only [StateT.run_bind, StateT.run_get, Option.pure_def, Option.bind_eq_bind,
      Option.bind_some, more, Scan.run_exactly, taken, some, Bool.false_eq_true, if_false]
    rw [String.ofList_toList]
    rfl

/-- **The text of an outline is read as that outline**, from end to end. -/
theorem ofText?_write (dialect : Dialect) {outline : Outline} (columns : outline.columns ≠ [])
    (spoken : outline.condition ≠ some "") :
    ofText? dialect (outline.write dialect) = some outline := by
  obtain ⟨_ | ⟨first, others⟩, source, joins, condition⟩ := outline
  · exact absurd rfl columns
  -- What stands behind the source and behind the first column.
  let behindSource := dialect.hint.toList ++
    (joins.flatMap (fun line => (" " ++ line.write dialect).toList) ++
      (writeCondition condition).toList)
  let behindFirst :=
    others.flatMap (fun other => ", ".toList ++ (dialect.column other).toList) ++
      (" FROM ".toList ++ ((dialect.quote source).toList ++ behindSource))
  have text : (Outline.write dialect ⟨first :: others, source, joins, condition⟩).toList =
      "SELECT ".toList ++ ((dialect.column first).toList ++ behindFirst) := by
    simp only [write, Dialect.head, List.map_cons, String.toList_append, toList_commas,
      toList_writeJoins, List.flatMap_map, List.append_assoc, behindFirst, behindSource]
  have firstEnds : dialect.EndsEntry behindFirst := by
    cases others with
    | nil => exact dialect.endsEntry_from _
    | cons other others =>
      simp only [behindFirst, List.flatMap_cons, List.append_assoc]
      exact dialect.endsEntry_comma _
  have sourceEnds : behindSource.head? ≠ some dialect.closing :=
    ends_source dialect joins condition
  rw [ofText?, Scan.whole, text, scan]
  simp only [StateT.run_bind, Option.bind_eq_bind, Option.bind_some, Scan.run_exactly,
    Dialect.run_scanColumn first firstEnds, behindFirst, Dialect.run_many_scanNextColumn,
    dialect.run_scanIdentifier_of_ends source sourceEnds, behindSource,
    Dialect.run_many_scanNextJoin, run_scanCondition spoken]
  rfl

end Outline

/-! ### Statements -/

/-- A join without the hop that asked for it. -/
def Join.withoutHop (join : Join) : Join := { join with segment := "" }

/-- A join tells nothing but its line and its hop. -/
theorem Join.map_withoutHop_eq {joins others : List Join} {lines : List JoinLine}
    (spelled : joins.map Join.line? = lines.map some)
    (same : others.map Join.line? = lines.map some) :
    joins.map withoutHop = others.map withoutHop := by
  induction lines generalizing joins others with
  | nil =>
    rw [List.map_eq_nil_iff.mp spelled, List.map_eq_nil_iff.mp same]
  | cons line lines ih =>
    obtain ⟨join, joins, rfl, first, rest⟩ := List.map_eq_cons_iff.mp spelled
    obtain ⟨other, others, rfl, second, more⟩ := List.map_eq_cons_iff.mp same
    obtain ⟨kind, set, rfl⟩ := Option.map_eq_some_iff.mp first
    obtain ⟨kind', set', line⟩ := Option.map_eq_some_iff.mp second
    have equal : join.withoutHop = other.withoutHop := by
      cases join
      cases other
      simp_all [withoutHop]
    rw [List.map_cons, List.map_cons, equal, ih rest more]

namespace Statement

/-- Statements that differ at most in the hops behind their joins, in an empty condition and in the
values of their parameters. -/
structure Alike (statement other : Statement) : Prop where
  columns : statement.selection.columns = other.selection.columns
  source : statement.source = other.source
  joins : statement.selection.joins.map Join.withoutHop =
    other.selection.joins.map Join.withoutHop
  condition : statement.condition? = other.condition?

theorem alike_of_outline? {statement other : Statement} {outline : Outline}
    (spoken : statement.outline? = some outline) (same : other.outline? = some outline) :
    statement.Alike other := by
  obtain ⟨lines, spelled, rfl⟩ := outline?_eq_some_iff.mp spoken
  obtain ⟨lines', spelled', equal⟩ := outline?_eq_some_iff.mp same
  obtain ⟨columns, source, rfl, condition⟩ := Outline.mk.inj equal
  exact ⟨columns, source, Join.map_withoutHop_eq spelled spelled', condition⟩

theorem condition?_ne_empty (statement : Statement) : statement.condition? ≠ some "" := by
  intro empty
  simpa using (Option.filter_eq_some_iff.mp empty).2

theorem ofText?_of_write {statement : Statement} {dialect : Dialect} {draft : Draft}
    (written : statement.write dialect .empty = (draft, none)) :
    ∃ outline, statement.outline? = some outline ∧
      Outline.ofText? dialect draft.sql = some outline := by
  obtain ⟨columns, kinds⟩ := columns_and_kinds_of_write written
  obtain ⟨outline, spoken⟩ := exists_outline_of_kinds kinds
  obtain ⟨params, text⟩ := write_of_outline? spoken columns .empty
  obtain rfl : ⟨Draft.empty.sql ++ outline.write dialect, params⟩ = draft :=
    (Prod.mk.inj (text.symm.trans written)).1
  obtain ⟨lines, _, rfl⟩ := outline?_eq_some_iff.mp spoken
  refine ⟨_, spoken, ?_⟩
  rw [Draft.empty, String.empty_append]
  exact Outline.ofText?_write dialect columns statement.condition?_ne_empty

/-- **The text of a statement tells the statement.** A statement with columns whose joins have kinds
is written to its end, and from the text alone its columns, its source, its joins and its condition
are read back, whatever is in the names. So statements with one text are alike. -/
theorem outline_of_write (dialect : Dialect) {statement : Statement}
    (columns : statement.selection.columns ≠ [])
    (kinds : ∀ join ∈ statement.selection.joins, join.kind ≠ none) :
    ∃ draft lines, statement.write dialect .empty = (draft, none) ∧
      statement.selection.joins.map Join.line? = lines.map some ∧
      Outline.ofText? dialect draft.sql =
        some ⟨statement.selection.columns, statement.source, lines, statement.condition?⟩ ∧
      ∀ other same, other.write dialect .empty = (same, none) → same.sql = draft.sql →
        statement.Alike other := by
  obtain ⟨outline, spoken⟩ := exists_outline_of_kinds kinds
  obtain ⟨params, written⟩ := write_of_outline? spoken columns .empty
  obtain ⟨_, spoken', read⟩ := ofText?_of_write written
  obtain rfl := Option.some.inj (spoken.symm.trans spoken')
  obtain ⟨lines, spelled, rfl⟩ := outline?_eq_some_iff.mp spoken
  refine ⟨_, lines, written, spelled, read, fun other same done equal => ?_⟩
  obtain ⟨outline, told, again⟩ := ofText?_of_write done
  rw [equal, read] at again
  rw [← Option.some.inj again] at told
  exact alike_of_outline? spoken told

/-- A statement whose names look like parts of statements. -/
def disguised : Statement where
  source := "a] WITH (NOLOCK) WHERE [b"
  selection.columns :=
    [⟨"t].[u", "c], [d", some "e] FROM [f"⟩, ⟨"", ", ", none⟩, ⟨"]", "]]", some " AS [g]"⟩]
  selection.joins :=
    [⟨some .left, "] = [t", "x] LEFT JOIN [y", "r] AS [s", "k", "s] ON ([k", "[r]"⟩]
  filter := some ⟨" WHERE [a].[b] INNER JOIN ", .empty⟩

/-- Names that look like parts of a statement are read back as names. -/
theorem outline_of_disguised :
    disguised.selection.columns ≠ [] ∧
      (∀ join ∈ disguised.selection.joins, join.kind ≠ none) ∧
      ∃ draft, disguised.write .sqlServer .empty = (draft, none) ∧
        Outline.ofText? .sqlServer draft.sql = some
          ⟨disguised.selection.columns, "a] WITH (NOLOCK) WHERE [b",
            [⟨.left, "r] AS [s", "s] ON ([k", "k", "] = [t", "x] LEFT JOIN [y"⟩],
            some " WHERE [a].[b] INNER JOIN "⟩ ∧
        ∀ other same, other.write .sqlServer .empty = (same, none) → same.sql = draft.sql →
          disguised.Alike other := by
  have columns : disguised.selection.columns ≠ [] := nofun
  have kinds : ∀ join ∈ disguised.selection.joins, join.kind ≠ none := by decide
  obtain ⟨draft, lines, written, spelled, read, alike⟩ :=
    outline_of_write .sqlServer columns kinds
  obtain ⟨line, others, rfl, first, none⟩ := List.map_eq_cons_iff.mp spelled.symm
  obtain rfl := List.map_eq_nil_iff.mp none
  obtain rfl := Option.some.inj first
  exact ⟨columns, kinds, draft, written, read, alike⟩

end Statement

end PathQuery
