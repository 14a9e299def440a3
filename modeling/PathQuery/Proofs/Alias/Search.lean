/-
**The search for a free alias comes to an end.**

An alias is looked for by counting on from a first number, and nothing bounds the counting but the
joins: every candidate that is taken is another join's alias. So the search ends behind at most one
candidate more than there are joins, whatever their aliases are, and it ends at the least number
that is free.

* `Search`: the search, candidate by candidate, without a bound;
* `Search.tries_le`, `exists_search`: it ends, and how soon;
* `Search.isLeast`: where it ends;
* `firstFree?_eq_some_iff`: the bounded search gives the number at which the unbounded one ends;
* `least_of_allocate?`: which alias is handed out.
-/

import Mathlib.Order.Bounds.Basic
import PathQuery.Proofs.Alias.Stem

namespace PathQuery.Alias

open Text

/-- **A search for a free number**: the number that it starts at, the number that it ends at, and
how many candidates it takes. -/
inductive Search (stem : String) (joins : List Join) : Nat → Nat → Nat → Prop
  | found {first : Nat} (free : taken joins (numbered stem first) = false) :
      Search stem joins first first 1
  | next {first last tries : Nat} (held : taken joins (numbered stem first) = true)
      (rest : Search stem joins (first + 1) last tries) : Search stem joins first last (tries + 1)

theorem taken_eq_false_iff {joins : List Join} {name : String} :
    taken joins name = false ↔ name ∉ joins.map (·.name) := by
  simp [taken]

variable {stem : String} {joins : List Join} {first last tries : Nat}

namespace Search

theorem free (search : Search stem joins first last tries) :
    taken joins (numbered stem last) = false := by
  induction search with
  | found free => exact free
  | next _ _ ih => exact ih

/-- Every candidate but the last is taken. -/
theorem held (search : Search stem joins first last tries) {number : Nat} (above : first ≤ number)
    (before : number < last) : taken joins (numbered stem number) = true := by
  induction search with
  | found _ => omega
  | @next first last tries held _ ih =>
    by_cases here : number = first
    · rw [here]
      exact held
    · exact ih (by omega) before

theorem start_le (search : Search stem joins first last tries) : first ≤ last := by
  induction search with
  | found _ => exact Nat.le_refl _
  | next _ _ ih => omega

/-- A search takes the candidates from the first to the last. -/
theorem last_succ (search : Search stem joins first last tries) : last + 1 = first + tries := by
  induction search with
  | found _ => rfl
  | next _ _ ih => omega

/-- **A search takes at most one candidate more than there are joins**: all but the last are aliases
of joins, and no two of them are the same. -/
theorem tries_le (search : Search stem joins first last tries) : tries ≤ joins.length + 1 := by
  have counted := search.last_succ
  have aliases : (List.range' first (tries - 1)).length ≤ joins.length := by
    refine @length_le_of_taken stem joins _ (List.nodup_range' 1) fun number listed => ?_
    rw [List.mem_range'_1] at listed
    exact search.held listed.1 (by omega)
  rw [List.length_range'] at aliases
  omega

/-- **A search ends at the least number that is free.** -/
theorem isLeast (search : Search stem joins first last tries) :
    IsLeast {number | first ≤ number ∧ numbered stem number ∉ joins.map (·.name)} last := by
  refine ⟨⟨search.start_le, taken_eq_false_iff.mp search.free⟩, ?_⟩
  rintro number ⟨above, free⟩
  by_contra before
  have held := search.held above (Nat.lt_of_not_le before)
  rw [taken_eq_false_iff.mpr free] at held
  cases held

end Search

/-- A search passes over the candidates that are taken, up to one that is free. -/
theorem search_add {distance : Nat} (free : taken joins (numbered stem (first + distance)) = false)
    (held : ∀ number, first ≤ number → number < first + distance →
      taken joins (numbered stem number) = true) :
    Search stem joins first (first + distance) (distance + 1) := by
  induction distance generalizing first with
  | zero => exact .found free
  | succ distance ih =>
    have shift : first + (distance + 1) = first + 1 + distance := by omega
    rw [shift] at free held ⊢
    refine .next (held first (Nat.le_refl first) (by omega)) (ih free ?_)
    intro number above before
    exact held number (by omega) before

/-- **The bounded search ends where the unbounded one does.** -/
theorem firstFree?_eq_some_iff :
    firstFree? stem joins first = some last ↔ ∃ tries, Search stem joins first last tries := by
  unfold firstFree?
  rw [List.find?_range'_eq_some, List.mem_range'_1]
  constructor
  · rintro ⟨free, ⟨start, _⟩, held⟩
    obtain ⟨distance, rfl⟩ := Nat.exists_eq_add_of_le start
    refine ⟨distance + 1, search_add (by simpa using free) ?_⟩
    intro number above before
    simpa using held number above before
  · rintro ⟨tries, search⟩
    have counted := search.last_succ
    have bound := search.tries_le
    refine ⟨by simpa using search.free, ⟨search.start_le, by omega⟩, ?_⟩
    intro number above before
    simpa using search.held above before

/-- **Every search comes to an end.** -/
theorem exists_search (stem : String) (joins : List Join) (first : Nat) :
    ∃ last tries, Search stem joins first last tries := by
  obtain ⟨last, found⟩ := Option.isSome_iff_exists.mp (isSome_firstFree? stem joins first)
  exact ⟨last, firstFree?_eq_some_iff.mp found⟩

/-- How many joins there are to a table. -/
def joinsTo (table : String) (joins : List Join) : Nat := joins.countP (·.rightTable == table)

/-- **Which alias is handed out.** A table without a letter in its name gets none. For any other the
search starts behind the number of its own joins, ends behind at most one candidate more than there
are joins, and gives the least number that is free. So an alias that is handed out is new. -/
theorem least_of_allocate? (table : String) (joins : List Join) :
    (allocate? table joins = none ↔ ∀ c ∈ table.toList, isLetter c = false) ∧
    ((∃ c ∈ table.toList, isLetter c = true) → ∃ stem number tries, stem? table = some stem ∧
      Search stem joins (joinsTo table joins + 1) number tries ∧ tries ≤ joins.length + 1 ∧
      IsLeast {candidate | joinsTo table joins + 1 ≤ candidate ∧
        numbered stem candidate ∉ joins.map (·.name)} number ∧
      allocate? table joins = some (numbered stem number)) ∧
    ∀ name, allocate? table joins = some name → name ∉ joins.map (·.name) := by
  refine ⟨?_, ?_, fun name => not_mem_of_allocate?⟩
  · rw [← Option.isNone_iff_eq_none, ← Option.not_isSome, isSome_allocate?]
    simp
  · intro letter
    have stemmed : (stem? table).isSome = true := by
      rw [isSome_stem?]
      exact List.any_eq_true.mpr letter
    obtain ⟨stem, stemmed⟩ := Option.isSome_iff_exists.mp stemmed
    obtain ⟨number, tries, search⟩ := exists_search stem joins (joinsTo table joins + 1)
    have free := firstFree?_eq_some_iff.mpr ⟨tries, search⟩
    refine ⟨stem, number, tries, stemmed, search, search.tries_le, search.isLeast, ?_⟩
    unfold joinsTo at free
    simp [allocate?, stemmed, free]

/-- Joins of which one is to `RightTable`, and two aliases behind the first number are taken, one of
them twice. -/
def crowded : List Join :=
  [⟨some .left, "Source", "Id", "RightTable", "Id", "RigTab3", "[RightTable:Id:Id]"⟩,
    ⟨some .left, "Source", "Id", "RigidTabs", "Id", "RigTab2", "[RigidTabs:Id:Id]"⟩,
    ⟨none, "RigTab2", "", "", "", "RigTab2", ""⟩]

theorem least_of_crowded :
    ∃ tries, Search "RigTab" crowded 2 4 tries ∧ tries ≤ 4 ∧
      IsLeast {candidate | 2 ≤ candidate ∧ numbered "RigTab" candidate ∉ crowded.map (·.name)} 4 ∧
      allocate? "RightTable" crowded = some "RigTab4" := by
  have letter : ∃ c ∈ "RightTable".toList, isLetter c = true := ⟨'R', by decide, by decide⟩
  obtain ⟨stem, number, tries, stemmed, search, bound, least, allocated⟩ :=
    (least_of_allocate? "RightTable" crowded).2.1 letter
  have short : stem? "RightTable" = some "RigTab" := by decide +kernel
  obtain rfl : "RigTab" = stem := Option.some.inj (short.symm.trans stemmed)
  have answer : allocate? "RightTable" crowded = some (numbered "RigTab" 4) := by decide +kernel
  obtain rfl : 4 = number := numbered_injective (Option.some.inj (answer.symm.trans allocated))
  exact ⟨tries, search, bound, least, allocated⟩

end PathQuery.Alias
