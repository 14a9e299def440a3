/-
**What a session keeps.**

A session resolves a projection when it is first asked for and hands out the same selection from then
on. So at any time it holds the keys that were asked for and that resolve to something, in the order
in which they were first asked for, and the stamp of a selection is the place of its key.

* `Cache.Holds.insert`: one more key is held behind the others, and no stamp changes;
* `Session.columns_of_holds`: every look-up gives the plain selection under the stamp of its key, and
  is a hit just when the key is held;
* `Session.kept_of_key`: the keys that are held behind one more call.
-/

import PathQuery.Proofs.Distinct
import PathQuery.Session

namespace PathQuery

/-! ### Caches -/

namespace Cache

variable {κ : Type} [DecidableEq κ] {key : String × κ}

theorem find?_of_not_mem {entries : List ((String × κ) × Stored)}
    (unknown : key ∉ entries.map (·.1)) : find? key entries = none := by
  induction entries with
  | nil => rfl
  | cons entry entries ih =>
    rw [List.map_cons, List.mem_cons, not_or] at unknown
    rw [find?, if_neg unknown.1, ih unknown.2]

/-- A new key goes behind the others. -/
theorem put_of_not_mem {entries : List ((String × κ) × Stored)}
    (unknown : key ∉ entries.map (·.1)) (stored : Stored) :
    put key stored entries = entries ++ [(key, stored)] := by
  induction entries with
  | nil => rfl
  | cons entry entries ih =>
    rw [List.map_cons, List.mem_cons, not_or] at unknown
    rw [put, if_neg unknown.1, ih unknown.2, List.cons_append]

/-- **A cache that holds these keys**: each has the selection that it resolves to, and its place in
the list for a stamp. -/
structure Holds (resolved : String × κ → Option Selection) (keys : List (String × κ))
    (cache : Cache κ) : Prop where
  listed : cache.entries.map (·.1) = keys
  next : cache.nextStamp = keys.length
  found : ∀ key ∈ keys, ∃ selection, resolved key = some selection ∧
    cache.get? key.1 key.2 = some ⟨keys.idxOf key, selection⟩

namespace Holds

variable {resolved : String × κ → Option Selection} {keys : List (String × κ)} {cache : Cache κ}

theorem empty (resolved : String × κ → Option Selection) : (Cache.empty).Holds resolved [] :=
  ⟨rfl, rfl, nofun⟩

theorem size (holds : cache.Holds resolved keys) : cache.size = keys.length := by
  rw [Cache.size, ← holds.listed, List.length_map]

theorem get?_of_not_mem (holds : cache.Holds resolved keys) (unknown : key ∉ keys) :
    cache.get? key.1 key.2 = none :=
  find?_of_not_mem (by rwa [holds.listed])

/-- **One more key is held behind the others**, and no stamp changes. -/
theorem insert (holds : cache.Holds resolved keys) (unknown : key ∉ keys) {selection : Selection}
    (made : resolved key = some selection) :
    (cache.insert key.1 key.2 selection).Holds resolved (keys ++ [key]) where
  listed := by
    have fresh : key ∉ cache.entries.map (·.1) := by rwa [holds.listed]
    rw [Cache.insert, put_of_not_mem fresh, List.map_append, holds.listed]
    rfl
  next := by rw [Cache.insert, holds.next, List.length_append, List.length_singleton]
  found other member := by
    rw [get?_insert]
    rcases List.mem_append.mp member with known | new
    · have differs : ¬ (other.1 = key.1 ∧ other.2 = key.2) := fun equal =>
        unknown (Prod.ext equal.1 equal.2 ▸ known)
      rw [if_neg differs, List.idxOf_append_of_mem known]
      exact holds.found other known
    · obtain rfl := List.mem_singleton.mp new
      refine ⟨selection, made, ?_⟩
      rw [if_pos ⟨rfl, rfl⟩, List.idxOf_append_of_notMem unknown, List.idxOf_cons_self,
        Nat.add_zero, stamped, holds.next]

end Holds

end Cache

/-! ### Look-ups -/

namespace Session

variable {κ : Type}

/-- What a projection selects from a source table and the events on the way, resolved afresh. -/
def build (session : Session κ) (key : String × κ) : Option Selection × List Event :=
  (session.catalog key.2).resolve key.1 session.settings.joinKind

/-- What a projection selects from a source table. -/
def selected (session : Session κ) (key : String × κ) : Option Selection := (session.build key).1

/-- The session with another cache. -/
def withCache (session : Session κ) (cache : Cache κ) : Session κ := { session with cache := cache }

variable [DecidableEq κ] {session : Session κ} {keys : List (String × κ)} {cache : Cache κ}

/-- The keys that are held once one more is looked up. -/
def note (session : Session κ) (keys : List (String × κ)) (key : String × κ) :
    List (String × κ) :=
  if key ∈ keys ∨ session.selected key = none then keys else keys ++ [key]

/-- The events of a look-up while these keys are held. -/
def lookupEvents (session : Session κ) (keys : List (String × κ)) (key : String × κ) :
    List Event :=
  if key ∈ keys then [.cacheHit key.1 (session.catalog key.2).name]
  else .cacheMiss key.1 (session.catalog key.2).name :: (session.build key).2

/-- **What a look-up comes to.** It gives the plain selection under the stamp of its key. -/
theorem columns_of_holds (holds : cache.Holds session.selected keys) (key : String × κ) :
    ∃ later : Cache κ, later.Holds session.selected (session.note keys key) ∧
      (session.withCache cache).columns key.1 key.2 =
        { answer := (session.selected key).map (Stored.mk ((session.note keys key).idxOf key))
          session := session.withCache later
          events := session.lookupEvents keys key } := by
  by_cases known : key ∈ keys
  · obtain ⟨selection, made, found⟩ := holds.found key known
    have same : session.note keys key = keys := if_pos (.inl known)
    refine ⟨cache, by rwa [same], ?_⟩
    rw [same, made, lookupEvents, if_pos known]
    simp only [columns, withCache, found, Option.map_some]
  · have missing := holds.get?_of_not_mem known
    have plain : (session.catalog key.2).resolve key.1 session.settings.joinKind =
        (session.selected key, (session.build key).2) := rfl
    cases made : session.selected key with
    | none =>
      have same : session.note keys key = keys := if_pos (.inr made)
      refine ⟨cache, by rwa [same], ?_⟩
      rw [lookupEvents, if_neg known]
      simp only [columns, withCache, missing, plain, made, Option.map_none]
    | some selection =>
      have more : session.note keys key = keys ++ [key] := if_neg (by simp [known, made])
      have stamp : (session.note keys key).idxOf key = cache.nextStamp := by
        rw [more, List.idxOf_append_of_notMem known, List.idxOf_cons_self, Nat.add_zero,
          holds.next]
      refine ⟨cache.insert key.1 key.2 selection, ?_, ?_⟩
      · rw [more]
        exact holds.insert known made
      · rw [stamp, lookupEvents, if_neg known]
        simp only [columns, withCache, missing, plain, made, Option.map_some, Cache.stamped]

/-! ### The keys of calls -/

end Session

/-- The key that a call looks up, if it looks one up. -/
def Call.key? {κ : Type} : Call κ → Option (String × κ)
  | .columns source key => some (source, key)
  | .select source _ key => some (source, key)
  | .filter _ => none
  | .join _ => none

namespace Session

variable {κ : Type} [DecidableEq κ] {session : Session κ}

/-- The keys that are held behind these calls: those that they looked up and that resolve to
something, each once. -/
def kept (session : Session κ) (calls : List (Call κ)) : List (String × κ) :=
  ((calls.filterMap Call.key?).filter fun key => (session.selected key).isSome).eraseDups

theorem mem_kept {calls : List (Call κ)} {key : String × κ} :
    key ∈ session.kept calls ↔
      key ∈ calls.filterMap Call.key? ∧ (session.selected key).isSome = true := by
  rw [kept, List.mem_eraseDups, List.mem_filter]

/-- Later calls add keys at the end. -/
theorem kept_prefix (session : Session κ) (calls more : List (Call κ)) :
    session.kept calls <+: session.kept (calls ++ more) := by
  rw [kept, kept, List.filterMap_append, List.filter_append, List.eraseDups_append]
  exact List.prefix_append _ _

theorem kept_of_no_key (session : Session κ) (calls : List (Call κ)) {call : Call κ}
    (none : call.key? = none) :
    session.kept (calls ++ [call]) = session.kept calls := by
  rw [kept, List.filterMap_append, List.filterMap_cons_none none, List.filterMap_nil,
    List.append_nil, kept]

/-- **The keys that are held after one more look-up.** -/
theorem kept_of_key (session : Session κ) (calls : List (Call κ)) {call : Call κ}
    {key : String × κ} (some : call.key? = some key) :
    session.kept (calls ++ [call]) = session.note (session.kept calls) key := by
  have asked : (calls ++ [call]).filterMap Call.key? = calls.filterMap Call.key? ++ [key] := by
    rw [List.filterMap_append, List.filterMap_cons_some some, List.filterMap_nil]
  rw [kept, asked, List.filter_append]
  cases made : session.selected key with
  | none =>
    rw [List.filter_singleton, made, Option.isSome_none, cond_false, List.append_nil, note,
      if_pos (.inr made), kept]
  | some selection =>
    rw [List.filter_singleton, made, Option.isSome_some, cond_true]
    by_cases known : key ∈ session.kept calls
    · rw [note, if_pos (.inl known), eraseDups_concat_of_mem (List.mem_eraseDups.mp known), kept]
    · have new : ¬ (key ∈ session.kept calls ∨ session.selected key = none) := by
        simp [known, made]
      have unknown := fun listed => known (List.mem_eraseDups.mpr listed)
      rw [note, if_neg new, eraseDups_concat_of_not_mem unknown, kept]

end Session

end PathQuery
