/-
**What scans make of written texts.**

A scan stops right behind what it was written for, whatever follows, as long as that cannot be taken
for a part of it.

* `Scan.run_literal`, `Scan.run_literal_of_not_prefix`: a fixed text is there or it is not;
* `Scan.run_takeWhile`: a run of characters of a kind is taken whole;
* `Scan.many_flatMap`: items that are read one at a time are read one after the other, up to an end
  at which there is none;
* `Dialect.run_scanIdentifier`, `Dialect.run_scanQualified`: a quoted name is read whole, whatever it
  holds.
-/

import PathQuery.Statement.Outline

namespace PathQuery

open Text

namespace Text.Scan

variable {α β : Type}

/-- A scan goes on with what came of the one before it. -/
theorem run_bind {scan : Scan α} {next : α → Scan β} {text rest : List Char} {value : α}
    (first : scan.run text = some (value, rest)) :
    (scan >>= next).run text = (next value).run rest := by
  rw [StateT.run_bind, first]
  rfl

theorem run_blanks (text : List Char) : blanks.run text = some ((), trimStart text) := rfl

theorem run_literal (expected rest : List Char) :
    (literal expected).run (expected ++ rest) = some (true, rest) := by
  simp [literal]

theorem run_literal_of_not_prefix {expected text : List Char} (other : ¬ expected <+: text) :
    (literal expected).run text = some (false, text) := by
  simp [literal, other]

theorem run_literal_self (c : Char) (rest : List Char) :
    (literal [c]).run (c :: rest) = some (true, rest) :=
  run_literal [c] rest

theorem run_literal_of_ne {c d : Char} (other : c ≠ d) (rest : List Char) :
    (literal [c]).run (d :: rest) = some (false, d :: rest) :=
  run_literal_of_not_prefix (by simpa using other)

theorem run_exactly (expected rest : List Char) :
    (exactly expected).run (expected ++ rest) = some ((), rest) := by
  simp [exactly, literal]

/-- A run of characters of a kind is taken whole, up to the first of another kind. -/
theorem run_takeWhile {kind : Char → Bool} {front rest : List Char}
    (found : ∀ c ∈ front, kind c = true) (stops : ∀ c ∈ rest.head?, kind c = false) :
    (takeWhile kind).run (front ++ rest) = some (front, rest) := by
  have cut : (front ++ rest).takeWhile kind = front := by
    rw [List.takeWhile_append_of_pos found]
    cases rest with
    | nil => simp
    | cons c rest => simp [stops c rfl]
  simp [takeWhile, cut]

/-- **Items are read one after the other**, if one is read in front of everything that ends it and
every item ends the one before it. -/
theorem many_flatMap {item : Scan (Option α)} {write : α → List Char} {Ends : List Char → Prop}
    (inhabited : ∀ value, write value ≠ []) (starts : ∀ value rest, Ends (write value ++ rest))
    (reads : ∀ value rest, Ends rest →
      item.run (write value ++ rest) = some (some value, rest))
    {rest : List Char} (ends : Ends rest) (stops : item.run rest = some (none, rest))
    (values : List α) : many item (values.flatMap write ++ rest) = some (values, rest) := by
  induction values with
  | nil => rw [List.flatMap_nil, List.nil_append, many, stops]
  | cons value values ih =>
    have behind : Ends (values.flatMap write ++ rest) := by
      cases values with
      | nil => exact ends
      | cons next values =>
        rw [List.flatMap_cons, List.append_assoc]
        exact starts next _
    have shorter : (values.flatMap write ++ rest).length <
        (write value ++ (values.flatMap write ++ rest)).length := by
      have some := List.length_pos_iff.mpr (inhabited value)
      simp only [List.length_append]
      omega
    rw [List.flatMap_cons, List.append_assoc, many, reads value _ behind]
    simp only [shorter, if_true, ih, Option.map_some]

end Text.Scan

/-! ### Quoted names -/

namespace Dialect

theorem closing_ne_space (dialect : Dialect) : ' ' ≠ dialect.closing := by
  cases dialect <;> decide

theorem closing_ne_point (dialect : Dialect) : '.' ≠ dialect.closing := by
  cases dialect <;> decide

theorem ends_of_space (dialect : Dialect) {rest : List Char} (space : rest.head? = some ' ') :
    rest.head? ≠ some dialect.closing := by
  rw [space]
  simpa using dialect.closing_ne_space

/-- **A quoted name is read whole**, whatever it holds, in front of everything that does not start
with the closing mark. -/
theorem run_scanIdentifier_of_ends (dialect : Dialect) (name : String) {rest : List Char}
    (ends : rest.head? ≠ some dialect.closing) :
    StateT.run (dialect.scanIdentifier : Scan String) ((dialect.quote name).toList ++ rest) =
      some (name, rest) := by
  rw [StateT.run, scanIdentifier, toList_quote, Quoted.scan_encode _ _ _ _ ends]
  simp

theorem run_scanIdentifier (dialect : Dialect) (name : String) {c : Char}
    (other : c ≠ dialect.closing) (rest : List Char) :
    StateT.run (dialect.scanIdentifier : Scan String) ((dialect.quote name).toList ++ c :: rest) =
      some (name, c :: rest) :=
  dialect.run_scanIdentifier_of_ends name (by simpa using other)

theorem run_scanQualified (dialect : Dialect) (table column : String) {rest : List Char}
    (ends : rest.head? ≠ some dialect.closing) :
    (dialect.scanQualified).run ((dialect.qualified table column).toList ++ rest) =
      some ((table, column), rest) := by
  have point : (dialect.qualified table column).toList ++ rest =
      (dialect.quote table).toList ++ '.' :: ((dialect.quote column).toList ++ rest) := by
    simp [qualified]
  have mark := Scan.run_exactly ['.'] ((dialect.quote column).toList ++ rest)
  rw [List.singleton_append] at mark
  rw [point, scanQualified]
  simp only [StateT.run_bind, dialect.run_scanIdentifier table dialect.closing_ne_point, mark,
    dialect.run_scanIdentifier_of_ends column ends, Option.bind_eq_bind, Option.bind_some]
  rfl

end Dialect

end PathQuery
