/-
**Resolved projections, kept for later.**

A cache keeps selections by source table and projection. Every selection that is put into it gets a
stamp of its own, so what is handed out twice can be told from what was made twice.

* `Cache.get?_insert`: what is put in is handed out, and nothing else changes.
-/

import PathQuery.Column

namespace PathQuery

/-- A selection as a cache hands it out. Equal stamps mean the very same one. -/
structure Stored where
  stamp : Nat
  selection : Selection
  deriving DecidableEq, Repr

/-- Selections by source table and projection. -/
structure Cache (κ : Type) where
  entries : List ((String × κ) × Stored)
  /-- The stamp of the selection that is put in next. -/
  nextStamp : Nat

namespace Cache

variable {κ : Type}

/-- A cache that holds nothing. -/
def empty : Cache κ := ⟨[], 0⟩

variable [DecidableEq κ]

/-- The entry with this key. -/
def find? (key : String × κ) : List ((String × κ) × Stored) → Option Stored
  | [] => none
  | (other, stored) :: rest => if key = other then some stored else find? key rest

/-- Sets an entry, in place of the one with the same key. -/
def put (key : String × κ) (stored : Stored) :
    List ((String × κ) × Stored) → List ((String × κ) × Stored)
  | [] => [(key, stored)]
  | (other, known) :: rest =>
    if key = other then (key, stored) :: rest else (other, known) :: put key stored rest

/-- What is kept for a source table and a projection. -/
def get? (cache : Cache κ) (source : String) (projection : κ) : Option Stored :=
  find? (source, projection) cache.entries

/-- The stored form of a selection that is put in next. -/
def stamped (cache : Cache κ) (selection : Selection) : Stored := ⟨cache.nextStamp, selection⟩

/-- Puts a selection in. -/
def insert (cache : Cache κ) (source : String) (projection : κ) (selection : Selection) :
    Cache κ :=
  ⟨put (source, projection) (cache.stamped selection) cache.entries, cache.nextStamp + 1⟩

/-- The number of selections that are kept. -/
def size (cache : Cache κ) : Nat := cache.entries.length

theorem find?_put (key other : String × κ) (stored : Stored)
    (entries : List ((String × κ) × Stored)) :
    find? other (put key stored entries) =
      if other = key then some stored else find? other entries := by
  induction entries with
  | nil => simp [put, find?]
  | cons entry rest ih =>
    obtain ⟨known, old⟩ := entry
    by_cases here : key = known
    · subst here
      simp only [put, if_true, find?]
      split <;> rfl
    · simp only [put, here, if_false, find?, ih]
      by_cases found : other = known
      · have differs : known ≠ key := fun equal => here equal.symm
        simp [found, differs]
      · simp [found]

theorem get?_insert (cache : Cache κ) (source other : String) (projection wanted : κ)
    (selection : Selection) :
    (cache.insert source projection selection).get? other wanted =
      if other = source ∧ wanted = projection then some (cache.stamped selection)
      else cache.get? other wanted := by
  simp only [get?, insert, find?_put, Prod.mk.injEq]

end Cache

end PathQuery
