/-
**Joins whose aliases count the stems.**

In a list of joins that grew from nothing, the joins of one stem are numbered in order of their
appearance, from one on and without gaps, whatever tables they join:

* `taken_iff`: just the numbers up to the count of a stem are taken;
* `allocate?_of_numbered`: so the next alias is the next number of its stem, although counting
  starts behind the joins of the same table only;
* `name_of_numbered`, `names_of_hasStem`: the closed form, join by join and stem by stem.
-/

import PathQuery.Proofs.Alias.Stem

namespace PathQuery

open Text

/-- Whether the table of a join is shortened to this stem. -/
def Join.hasStem (stem : String) (join : Join) : Bool := stem? join.rightTable == some stem

namespace Alias

/-- How many joins share a stem. -/
def sharing (stem : String) (joins : List Join) : Nat := joins.countP (Join.hasStem stem)

/-- **Joins that were numbered as they came**: each counts the joins before it that share its
stem. -/
inductive Numbered : List Join → Prop
  | nil : Numbered []
  | snoc {joins : List Join} {join : Join} {stem : String} (before : Numbered joins)
      (stemmed : stem? join.rightTable = some stem)
      (named : join.name = numbered stem (1 + sharing stem joins)) : Numbered (joins ++ [join])

theorem sharing_snoc (stem : String) (joins : List Join) (join : Join) :
    sharing stem (joins ++ [join]) =
      sharing stem joins + if stem? join.rightTable = some stem then 1 else 0 := by
  simp [sharing, Join.hasStem, List.countP_append, List.countP_singleton]

theorem taken_snoc (joins : List Join) (join : Join) (name : String) :
    taken (joins ++ [join]) name = true ↔ taken joins name = true ∨ join.name = name := by
  simp [taken]

/-- **The numbers up to the count of a stem are taken**, and no others. -/
theorem taken_iff {joins : List Join} (counted : Numbered joins) {table stem : String}
    (stemmed : stem? table = some stem) (number : Nat) :
    taken joins (numbered stem number) = true ↔ 1 ≤ number ∧ number ≤ sharing stem joins := by
  induction counted with
  | nil =>
    simp only [taken, sharing, List.any_nil, List.countP_nil, Bool.false_eq_true, false_iff]
    omega
  | @snoc joins join own before ofJoin named ih =>
    rw [taken_snoc, ih, sharing_snoc, named, numbered_eq_numbered_iff ofJoin stemmed, ofJoin]
    by_cases same : own = stem
    · subst same
      simp only [true_and, if_true]
      omega
    · simp [same]

theorem count_le_sharing {table stem : String} (stemmed : stem? table = some stem)
    (joins : List Join) : joins.countP (·.rightTable == table) ≤ sharing stem joins := by
  refine List.countP_mono_left fun join _ equal => ?_
  have same : join.rightTable = table := by simpa using equal
  simp [Join.hasStem, same, stemmed]

/-- **The next alias of a stem is its next number.** -/
theorem allocate?_of_numbered {joins : List Join} (counted : Numbered joins)
    {table stem : String} (stemmed : stem? table = some stem) :
    allocate? table joins = some (numbered stem (1 + sharing stem joins)) := by
  have start := count_le_sharing stemmed joins
  have room : sharing stem joins ≤ joins.length := List.countP_le_length
  have next : firstFree? stem joins (joins.countP (·.rightTable == table) + 1) =
      some (1 + sharing stem joins) := by
    refine List.find?_range'_eq_some.mpr ⟨?_, ?_, fun number first before => ?_⟩
    · have free := taken_iff counted stemmed (1 + sharing stem joins)
      cases held : taken joins (numbered stem (1 + sharing stem joins)) with
      | false => rfl
      | true =>
        have bounds := free.mp held
        omega
    · rw [List.mem_range'_1]
      omega
    · have held := (taken_iff counted stemmed number).mpr ⟨by omega, by omega⟩
      simp [held]
  simp [allocate?, stemmed, next]

/-! ### The closed form -/

/-- **The alias of a join counts the joins before it that share its stem.** -/
theorem name_of_numbered {joins : List Join} (counted : Numbered joins) {earlier later : List Join}
    {join : Join} (place : joins = earlier ++ join :: later) :
    ∃ stem, stem? join.rightTable = some stem ∧
      join.name = numbered stem (1 + sharing stem earlier) := by
  induction counted generalizing later with
  | nil => simp at place
  | @snoc joins last own before ofLast named ih =>
    rcases List.eq_nil_or_concat later with rfl | ⟨others, final, rfl⟩
    · obtain ⟨rfl, single⟩ := List.append_inj' place rfl
      cases single
      exact ⟨own, ofLast, named⟩
    · rw [List.concat_eq_append, ← List.cons_append, ← List.append_assoc] at place
      obtain ⟨rest, _⟩ := List.append_inj' place rfl
      exact ih rest

/-- **The joins of a stem are numbered from one**, in order and without gaps. -/
theorem names_of_hasStem {joins : List Join} (counted : Numbered joins) (stem : String) :
    (joins.filter (Join.hasStem stem)).map (·.name) =
      (List.range' 1 (sharing stem joins)).map (numbered stem) := by
  induction counted with
  | nil => rfl
  | @snoc joins join own before ofJoin named ih =>
    rw [List.filter_append, List.map_append, ih, sharing_snoc, ofJoin]
    by_cases same : own = stem
    · subst same
      simp [Join.hasStem, ofJoin, named, List.range'_1_concat]
    · simp [Join.hasStem, ofJoin, same]

/-- No two joins go by one alias. -/
theorem nodup_names {joins : List Join} (counted : Numbered joins) :
    (joins.map (·.name)).Nodup := by
  induction counted with
  | nil => simp
  | @snoc joins join own before ofJoin named ih =>
    rw [List.map_append, List.nodup_append]
    refine ⟨ih, by simp, fun name listed other single equal => ?_⟩
    have same : name = join.name := equal.trans (List.mem_singleton.mp single)
    have held : taken joins (numbered own (1 + sharing own joins)) = true := by
      rw [← named, ← same]
      simpa [taken] using listed
    have bounds := (taken_iff before ofJoin _).mp held
    omega

end Alias

end PathQuery
