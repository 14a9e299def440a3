/-
**The grammar of hops.**

A segment spells three parts when it is these parts between brackets, with a colon between each two
and none in a part (`Hop.Spells`). That is all there is to its shape, and the parts are found again
in one way only. Reading then asks each part, without the blanks around it, to be a name:

* `isShaped_iff_spells`: a segment is shaped like a hop just when it spells three parts;
* `parse?_of_spells`: what is read of a segment from its parts;
* `parse?_print`: names that are printed are read back, so printing loses nothing;
* `reading_of_hops`: which segments are hops, which hop each is, and the way back.
-/

import Mathlib.Data.List.Basic
import PathQuery.Hop

namespace PathQuery

open Text

namespace Hop

/-- **A segment spells three parts**: a table, its column and the column before it. -/
structure Spells (segment table column left : String) : Prop where
  spelled : segment = print table column left
  table : ':' ∉ table.toList
  column : ':' ∉ column.toList
  left : ':' ∉ left.toList

/-- What can name a table or a column: a text that is not empty, without brackets. -/
def IsName (name : String) : Prop := name ≠ "" ∧ '[' ∉ name.toList ∧ ']' ∉ name.toList

instance (name : String) : Decidable (IsName name) :=
  inferInstanceAs (Decidable (name ≠ "" ∧ '[' ∉ name.toList ∧ ']' ∉ name.toList))

/-- A name as it can be printed: there is nothing to trim, and it holds no colon. -/
structure Printable (name : String) : Prop where
  named : IsName name
  trimmed : trim name = name
  colonless : ':' ∉ name.toList

theorem isName_iff {name : String} : isName name.toList = true ↔ IsName name := by
  simp [isName, IsName, and_assoc]

/-! ### The parts of a segment -/

/-- What stands between the brackets of a printed segment. -/
theorem body?_print (table column left : String) :
    body? (print table column left).toList =
      some (table.toList ++ ':' :: (column.toList ++ ':' :: left.toList)) := by
  rw [body?_eq_some_iff]
  simp [print]

/-- **The parts of a segment are its pieces**, so it spells them in one way only. -/
theorem Spells.cut {segment table column left : String}
    (spells : Spells segment table column left) :
    (body? segment.toList).map (pieces ':') =
      some [table.toList, column.toList, left.toList] := by
  rw [spells.spelled, body?_print, Option.map_some, pieces_append_cons spells.table,
    pieces_append_cons spells.column, pieces_of_not_mem spells.left]

/-- **The shape of a hop is that of three parts.** -/
theorem isShaped_iff_spells {segment : String} :
    isShaped segment = true ↔ ∃ table column left, Spells segment table column left := by
  rw [isShaped_iff]
  constructor
  · rintro ⟨body, spelled, colons⟩
    have three : (pieces ':' body).length = 3 := by rw [length_pieces, colons]
    obtain ⟨table, column, left, cut⟩ := List.length_eq_three.mp three
    have whole := intercalate_pieces ':' body
    have clean : ∀ part ∈ [table, column, left], ':' ∉ part :=
      fun part listed => not_mem_of_mem_pieces (cut ▸ listed)
    rw [cut] at whole
    refine ⟨String.ofList table, String.ofList column, String.ofList left, ?_, ?_, ?_, ?_⟩
    · rw [← String.toList_inj, spelled, ← whole]
      simp [print, List.intercalate]
    all_goals
      rw [String.toList_ofList]
      exact clean _ (by simp)
  · rintro ⟨table, column, left, spells⟩
    refine ⟨_, body?_eq_some_iff.mp (spells.spelled ▸ body?_print table column left), ?_⟩
    have none : table.toList.count ':' = 0 ∧ column.toList.count ':' = 0 ∧
        left.toList.count ':' = 0 :=
      ⟨List.count_eq_zero.mpr spells.table, List.count_eq_zero.mpr spells.column,
        List.count_eq_zero.mpr spells.left⟩
    simp [none]

/-! ### Reading -/

/-- **What is read of a segment from its parts**: the parts without the blanks around them, if they
are names. -/
theorem parse?_of_spells {segment table column left : String}
    (spells : Spells segment table column left) :
    parse? segment =
      if isName (trim table).toList && isName (trim column).toList && isName (trim left).toList then
        some ⟨trim table, trim column, trim left, segment⟩
      else none := by
  have parts : (body? segment.toList).map (fun body => (pieces ':' body).map part) =
      some [part table.toList, part column.toList, part left.toList] := by
    have trimmed := congrArg (Option.map (List.map part)) spells.cut
    rw [Option.map_map] at trimmed
    exact trimmed
  rw [parse?, parts]
  simp only [toList_trim]
  rfl

theorem parse?_eq_some_iff {segment table column left : String}
    (spells : Spells segment table column left) {hop : Hop} :
    parse? segment = some hop ↔
      (IsName (trim table) ∧ IsName (trim column) ∧ IsName (trim left)) ∧
        hop = ⟨trim table, trim column, trim left, segment⟩ := by
  rw [parse?_of_spells spells]
  simp only [← isName_iff]
  constructor
  · intro read
    split at read
    · rename_i names
      rw [Bool.and_eq_true, Bool.and_eq_true] at names
      exact ⟨⟨names.1.1, names.1.2, names.2⟩, (Option.some.inj read).symm⟩
    · cases read
  · rintro ⟨⟨first, second, third⟩, rfl⟩
    rw [first, second, third]
    rfl

/-- A name that can be printed is its own part. -/
theorem Printable.isName {name : String} (printable : Printable name) : IsName (trim name) := by
  rw [printable.trimmed]
  exact printable.named

/-- **Names that are printed are read back.** -/
theorem parse?_print {table column left : String} (first : Printable table)
    (second : Printable column) (third : Printable left) :
    parse? (print table column left) = some ⟨table, column, left, print table column left⟩ := by
  have spells : Spells (print table column left) table column left :=
    ⟨rfl, first.colonless, second.colonless, third.colonless⟩
  refine (parse?_eq_some_iff spells).mpr ⟨⟨first.isName, second.isName, third.isName⟩, ?_⟩
  rw [first.trimmed, second.trimmed, third.trimmed]

/-- **Segments are hops by their grammar.** The shape of a segment is that of three parts, it is a
hop just when these are names, and the hop has these names. Names that are printed are read back, so
different names are printed differently. -/
theorem reading_of_hops :
    (∀ segment, isShaped segment = true ↔ ∃ table column left, Spells segment table column left) ∧
    (∀ segment, (parse? segment).isSome = true ↔ ∃ table column left,
      Spells segment table column left ∧
        IsName (trim table) ∧ IsName (trim column) ∧ IsName (trim left)) ∧
    (∀ segment table column left hop, Spells segment table column left →
      parse? segment = some hop → hop = ⟨trim table, trim column, trim left, segment⟩) ∧
    (∀ table column left, Printable table → Printable column → Printable left →
      parse? (print table column left) =
        some ⟨table, column, left, print table column left⟩) ∧
    ∀ table column left table' column' left', Printable table → Printable column →
      Printable left → Printable table' → Printable column' → Printable left' →
      print table column left = print table' column' left' →
        table = table' ∧ column = column' ∧ left = left' := by
  refine ⟨fun _ => isShaped_iff_spells, fun segment => ⟨fun read => ?_, ?_⟩, ?_,
    fun _ _ _ => parse?_print, ?_⟩
  · obtain ⟨hop, read⟩ := Option.isSome_iff_exists.mp read
    obtain ⟨table, column, left, spells⟩ := isShaped_iff_spells.mp (isShaped_of_parse? read)
    exact ⟨table, column, left, spells, ((parse?_eq_some_iff spells).mp read).1⟩
  · rintro ⟨table, column, left, spells, names⟩
    exact Option.isSome_iff_exists.mpr ⟨_, (parse?_eq_some_iff spells).mpr ⟨names, rfl⟩⟩
  · intro segment table column left hop spells read
    exact ((parse?_eq_some_iff spells).mp read).2
  · intro table column left table' column' left' first second third first' second' third' same
    have one := parse?_print first second third
    rw [same, parse?_print first' second' third', Option.some.injEq, Hop.mk.injEq] at one
    exact ⟨one.1.symm, one.2.1.symm, one.2.2.1.symm⟩

/-- Blanks inside a name stay, those around it go, and a dot or a letter beyond Latin is like any
other character. -/
theorem reading_of_padded :
    Spells "[ Größe Tab\u3000:\tId.2:Left\u00a0]" " Größe Tab\u3000" "\tId.2" "Left\u00a0" ∧
    parse? "[ Größe Tab\u3000:\tId.2:Left\u00a0]" =
      some ⟨"Größe Tab", "Id.2", "Left", "[ Größe Tab\u3000:\tId.2:Left\u00a0]"⟩ ∧
    Printable "Größe Tab" ∧ Printable "Id.2" ∧ Printable "Left" ∧
    parse? "[Größe Tab:Id.2:Left]" =
      some ⟨"Größe Tab", "Id.2", "Left", "[Größe Tab:Id.2:Left]"⟩ := by
  obtain ⟨_, reads, hops, printed, _⟩ := reading_of_hops
  have spells : Spells "[ Größe Tab\u3000:\tId.2:Left\u00a0]" " Größe Tab\u3000" "\tId.2"
      "Left\u00a0" := ⟨by decide, by decide, by decide, by decide⟩
  have trimmed : trim " Größe Tab\u3000" = "Größe Tab" ∧ trim "\tId.2" = "Id.2" ∧
      trim "Left\u00a0" = "Left" := by decide +kernel
  have first : Printable "Größe Tab" := ⟨by decide, by decide, by decide⟩
  have second : Printable "Id.2" := ⟨by decide, by decide, by decide⟩
  have third : Printable "Left" := ⟨by decide, by decide, by decide⟩
  refine ⟨spells, ?_, first, second, third, printed _ _ _ first second third⟩
  have names : IsName (trim " Größe Tab\u3000") ∧ IsName (trim "\tId.2") ∧
      IsName (trim "Left\u00a0") := by
    rw [trimmed.1, trimmed.2.1, trimmed.2.2]
    exact ⟨first.named, second.named, third.named⟩
  obtain ⟨hop, read⟩ := Option.isSome_iff_exists.mp ((reads _).mpr ⟨_, _, _, spells, names⟩)
  rw [read, hops _ _ _ _ _ spells read, trimmed.1, trimmed.2.1, trimmed.2.2]

end Hop

end PathQuery
