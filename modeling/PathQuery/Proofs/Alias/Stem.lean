/-
**Stems and the numbers behind them.**

A stem holds letters only and a number digits only, so the two cannot be mistaken for each other:

* `isLetter_of_mem_stem`: every character of a stem is a letter of the name it was made from;
* `numbered_eq_numbered_iff`: an alias falls apart into its stem and its number in one way;
* `isSome_allocate?`: only a name without letters gets no alias;
* `not_mem_of_allocate?`: an alias that is handed out is no join's yet.
-/

import PathQuery.Alias

namespace PathQuery

open Text

/-- Names with a letter have a stem, and no others. -/
theorem isSome_stem? (name : String) : (stem? name).isSome = name.toList.any isLetter := by
  unfold stem?
  split
  · rename_i none
    rw [cutWords_eq_nil_iff.mp none]
    rfl
  · rename_i first others cut
    cases letters : name.toList.any isLetter with
    | true => rfl
    | false =>
      rw [cutWords_eq_nil_iff.mpr letters] at cut
      cases cut

/-- **A stem holds letters only.** -/
theorem isLetter_of_mem_stem {name stem : String} (stemmed : stem? name = some stem) :
    ∀ c ∈ stem.toList, isLetter c = true := by
  intro c member
  have taken : c ∈ (cutWords name.toList).flatMap (·.take 3) := by
    unfold stem? at stemmed
    split at stemmed
    · cases stemmed
    · rename_i first others cut
      cases stemmed
      rw [String.toList_ofList] at member
      rw [cut]
      exact member
  obtain ⟨word, listed, inWord⟩ := List.mem_flatMap.mp taken
  have letter : c ∈ (cutWords name.toList).flatten :=
    List.mem_flatten.mpr ⟨word, listed, List.mem_of_mem_take inWord⟩
  rw [flatten_cutWords, List.mem_filter] at letter
  exact letter.2

namespace Alias

/-! ### The stem and the number of an alias -/

theorem toList_numbered (stem : String) (number : Nat) :
    (numbered stem number).toList = stem.toList ++ Nat.toDigits 10 number := by
  simp [numbered]

theorem takeWhile_isLetter_toDigits (number : Nat) :
    (Nat.toDigits 10 number).takeWhile isLetter = [] := by
  cases digits : Nat.toDigits 10 number with
  | nil => rfl
  | cons c rest =>
    have digit : c.isDigit = true :=
      Nat.isDigit_of_mem_toDigits (by decide) (by decide) (digits ▸ List.mem_cons_self)
    rw [List.takeWhile_cons, isLetter_of_isDigit digit]
    rfl

/-- The letters at the front of an alias are its stem. -/
theorem takeWhile_isLetter_numbered {stem : String} (letters : ∀ c ∈ stem.toList, isLetter c = true)
    (number : Nat) : (numbered stem number).toList.takeWhile isLetter = stem.toList := by
  rw [toList_numbered, List.takeWhile_append_of_pos letters, takeWhile_isLetter_toDigits,
    List.append_nil]

/-- **An alias falls apart in one way**, if its stem is one of a table. -/
theorem numbered_eq_numbered_iff {first second table other : String} {m n : Nat}
    (stemmed : stem? table = some first) (stemmed' : stem? other = some second) :
    numbered first m = numbered second n ↔ first = second ∧ m = n := by
  constructor
  · intro same
    have front := takeWhile_isLetter_numbered (isLetter_of_mem_stem stemmed) m
    rw [same, takeWhile_isLetter_numbered (isLetter_of_mem_stem stemmed') n] at front
    have equal : first = second := (String.toList_inj.mp front).symm
    subst equal
    exact ⟨rfl, numbered_injective same⟩
  · rintro ⟨rfl, rfl⟩
    rfl

/-! ### Allocation -/

/-- **Only a name without letters gets no alias.** -/
theorem isSome_allocate? (table : String) (joins : List Join) :
    (allocate? table joins).isSome = table.toList.any isLetter := by
  rw [← isSome_stem?]
  unfold allocate?
  cases stem? table with
  | none => rfl
  | some stem =>
    obtain ⟨number, free⟩ := Option.isSome_iff_exists.mp
      (isSome_firstFree? stem joins (joins.countP (·.rightTable == table) + 1))
    simp [free]

/-- **An alias that is handed out is no join's yet.** -/
theorem not_mem_of_allocate? {table name : String} {joins : List Join}
    (allocated : allocate? table joins = some name) : name ∉ joins.map (·.name) := by
  obtain ⟨stem, _, counted⟩ := Option.bind_eq_some_iff.mp allocated
  obtain ⟨number, free, named⟩ := Option.bind_eq_some_iff.mp counted
  obtain rfl : numbered stem number = name := Option.some.inj named
  have untaken := List.find?_some free
  simpa [taken] using untaken

end Alias

end PathQuery
