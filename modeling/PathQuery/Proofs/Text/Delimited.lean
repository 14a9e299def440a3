/-
**Quoted names end where they end.**

Behind the opening mark of a quoted name a single closing mark ends the name, and a doubled one
stands for one in it (`Quoted.Closes`). The scanner follows this rule, and the written form of a
name is the only text that the rule reads as the name:

* `Closes.eq_escape`: by the rule, only the escaped name with a single closing mark behind it is the
  name and what follows;
* `scanBody_eq_some_iff`: the scanner and the rule agree;
* `closes_escape_iff`: an escaped text closes at one place only;
* `Dialect.scanIdentifier_eq_some_iff`: what a dialect reads as a quoted name is that name, quoted;
* `Dialect.delimited_of_quote`: a quoted name is read whole, and of two texts that start with quoted
  names and are the same, the names and what follows them are the same.
-/

import PathQuery.Dialect

namespace PathQuery

namespace Text.Quoted

variable {closing : Char}

/-- **Where a text behind an opening mark ends**, what it says and what follows it: a closing mark
with another one behind it stands for one, and one on its own ends the text. -/
inductive Closes (closing : Char) : List Char → List Char → List Char → Prop
  | single {rest : List Char} (alone : rest.head? ≠ some closing) :
    Closes closing (closing :: rest) [] rest
  | doubled {text name rest : List Char} (others : Closes closing text name rest) :
    Closes closing (closing :: closing :: text) (closing :: name) rest
  | plain {c : Char} {text name rest : List Char} (other : c ≠ closing)
    (others : Closes closing text name rest) : Closes closing (c :: text) (c :: name) rest

/-! ### The rule and the written form -/

/-- **Only the escaped text closes as the text.** -/
theorem Closes.eq_escape {text name rest : List Char} (closes : Closes closing text name rest) :
    rest.head? ≠ some closing ∧ text = escape closing name ++ closing :: rest := by
  induction closes with
  | single alone => exact ⟨alone, rfl⟩
  | @doubled text name rest _ ih =>
    refine ⟨ih.1, ?_⟩
    rw [escape, if_pos rfl, ih.2]
    rfl
  | @plain c text name rest other _ ih =>
    refine ⟨ih.1, ?_⟩
    rw [escape, if_neg other, ih.2]
    rfl

/-! ### The rule and the scanner -/

theorem closes_of_scanBody {text name rest : List Char}
    (found : scanBody closing text = some (name, rest)) : Closes closing text name rest := by
  fun_induction scanBody closing text generalizing name rest with
  | case1 => cases found
  | case2 =>
    cases found
    exact .single (by simp)
  | case3 => cases found
  | case4 text ih =>
    -- A mark and another one behind it: the scan goes on behind both.
    obtain ⟨⟨others, left⟩, behind, same⟩ := Option.map_eq_some_iff.mp found
    cases same
    exact .doubled (ih behind)
  | case5 next text other =>
    cases found
    exact .single (by simpa using other)
  | case6 c next text other ih =>
    obtain ⟨⟨others, left⟩, behind, same⟩ := Option.map_eq_some_iff.mp found
    cases same
    exact .plain other (ih behind)

/-- **The scanner follows the rule.** -/
theorem scanBody_eq_some_iff {text name rest : List Char} :
    scanBody closing text = some (name, rest) ↔ Closes closing text name rest := by
  constructor
  · exact closes_of_scanBody
  · intro closes
    obtain ⟨alone, rfl⟩ := closes.eq_escape
    exact scanBody_escape closing name rest alone

/-- **An escaped text closes nowhere else**, and says nothing else. -/
theorem closes_escape_iff (name : List Char) {rest : List Char} (alone : rest.head? ≠ some closing)
    {found left : List Char} :
    Closes closing (escape closing name ++ closing :: rest) found left ↔
      found = name ∧ left = rest := by
  rw [← scanBody_eq_some_iff, scanBody_escape closing name rest alone, Option.some.injEq,
    Prod.mk.injEq]
  exact and_congr eq_comm eq_comm

/-- **What is read as a delimited text is that text, delimited.** -/
theorem scan_eq_some_iff {opening : Char} {text name rest : List Char} :
    scan opening closing text = some (name, rest) ↔
      rest.head? ≠ some closing ∧ text = encode opening closing name ++ rest := by
  constructor
  · intro found
    unfold scan at found
    split at found
    · cases found
    · rename_i c behind
      split at found
      · rename_i mark
        obtain ⟨alone, rfl⟩ := (scanBody_eq_some_iff.mp found).eq_escape
        refine ⟨alone, ?_⟩
        rw [mark, encode, List.cons_append, List.append_assoc]
        rfl
      · cases found
  · rintro ⟨alone, rfl⟩
    exact scan_encode opening closing name rest alone

end Text.Quoted

namespace Dialect

open Text

/-- **What a dialect reads as a quoted name is that name, quoted**, in front of something that does
not start with the closing mark. -/
theorem scanIdentifier_eq_some_iff (dialect : Dialect) {text rest : List Char} {name : String} :
    dialect.scanIdentifier text = some (name, rest) ↔
      rest.head? ≠ some dialect.closing ∧ text = (dialect.quote name).toList ++ rest := by
  rw [toList_quote, ← Quoted.scan_eq_some_iff]
  unfold scanIdentifier
  rw [Option.map_eq_some_iff]
  constructor
  · rintro ⟨⟨characters, left⟩, found, same⟩
    cases same
    rw [String.toList_ofList]
    exact found
  · intro found
    refine ⟨(name.toList, rest), found, ?_⟩
    show (String.ofList name.toList, rest) = (name, rest)
    rw [String.ofList_toList]

/-- **Quoted names are delimited by themselves.** In front of anything that does not start with the
closing mark, the rule closes a quoted name at its end and nowhere else; scanning gives the name and
stops there; nothing else is scanned as that name; and two texts that start with quoted names differ
when the names do, or when what follows them does. -/
theorem delimited_of_quote (dialect : Dialect) (name rest : String)
    (alone : rest.toList.head? ≠ some dialect.closing) :
    (∃ text, (dialect.quote name ++ rest).toList = dialect.opening :: text ∧
        ∀ found left, Quoted.Closes dialect.closing text found left ↔
          found = name.toList ∧ left = rest.toList) ∧
      dialect.scanIdentifier (dialect.quote name ++ rest).toList = some (name, rest.toList) ∧
      (∀ text : String, dialect.scanIdentifier text.toList = some (name, rest.toList) →
        text = dialect.quote name ++ rest) ∧
      ∀ other behind : String, behind.toList.head? ≠ some dialect.closing →
        dialect.quote name ++ rest = dialect.quote other ++ behind →
          name = other ∧ rest = behind := by
  have scanned (name rest : String) (alone : rest.toList.head? ≠ some dialect.closing) :
      dialect.scanIdentifier (dialect.quote name ++ rest).toList = some (name, rest.toList) := by
    rw [String.toList_append]
    exact dialect.scanIdentifier_eq_some_iff.mpr ⟨alone, rfl⟩
  refine ⟨⟨Quoted.escape dialect.closing name.toList ++ dialect.closing :: rest.toList, ?_,
    fun found left => Quoted.closes_escape_iff name.toList alone⟩, scanned name rest alone,
    fun text found => ?_, fun other behind single same => ?_⟩
  · rw [String.toList_append, toList_quote, Quoted.encode, List.cons_append, List.append_assoc,
      List.singleton_append]
  · rw [← String.toList_inj, String.toList_append]
    exact (dialect.scanIdentifier_eq_some_iff.mp found).2
  · have first := scanned name rest alone
    rw [same, scanned other behind single, Option.some.injEq, Prod.mk.injEq, String.toList_inj]
      at first
    exact ⟨first.1.symm, first.2.symm⟩

/-- Marks at the start, in a row and at the end of a name, with more quoted text behind it. -/
theorem delimited_of_marks :
    " AS [x]".toList.head? ≠ some sqlServer.closing ∧
      sqlServer.scanIdentifier "[]]a]]]]b]]] AS [x]".toList =
        some ("]a]]b]", " AS [x]".toList) ∧
      "".toList.head? ≠ some postgreSql.closing ∧
      postgreSql.scanIdentifier "\"\"\"a\"\"\"\"b\"\"\"".toList = some ("\"a\"\"b\"", []) := by
  have space : " AS [x]".toList.head? ≠ some sqlServer.closing := by decide
  have ending : "".toList.head? ≠ some postgreSql.closing := by decide
  exact ⟨space, (sqlServer.delimited_of_quote "]a]]b]" " AS [x]" space).2.1, ending,
    (postgreSql.delimited_of_quote "\"a\"\"b\"" "" ending).2.1⟩

end Dialect

end PathQuery
