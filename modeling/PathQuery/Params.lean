/-
**Parameters and the values bound to them.**

* `Params.get?_insert`: binding a name changes what that name looks up, and nothing else.
* `Params.nodup_names_insert`: binding keeps the names distinct.
* `Params.get?_extend`: names that are bound anew look up their new values, and no others change.
-/

import PathQuery.Value

namespace PathQuery

/-- Values by the name of the parameter that they are bound to. -/
structure Params where
  entries : List (String × Value)

namespace Params

/-- No parameters. -/
def empty : Params := ⟨[]⟩

/-- The value of the first entry with this name. -/
def find? (name : String) : List (String × Value) → Option Value
  | [] => none
  | (other, value) :: rest => if name = other then some value else find? name rest

/-- The value bound to a name. -/
def get? (params : Params) (name : String) : Option Value := find? name params.entries

/-- The names of the parameters. -/
def names (params : Params) : List String := params.entries.map (·.1)

/-- The number of parameters. -/
def size (params : Params) : Nat := params.entries.length

/-- Binds a name, which replaces the value that it may be bound to. -/
def bind (name : String) (value : Value) : List (String × Value) → List (String × Value)
  | [] => [(name, value)]
  | (other, known) :: rest =>
    if name = other then (name, value) :: rest else (other, known) :: bind name value rest

/-- Binds a name, which replaces the value that it may be bound to. -/
def insert (params : Params) (name : String) (value : Value) : Params :=
  ⟨bind name value params.entries⟩

/-- Binds all names of `others`, in their order. -/
def extend (params others : Params) : Params :=
  others.entries.foldl (fun params (name, value) => params.insert name value) params

theorem find?_bind (name other : String) (value : Value) (entries : List (String × Value)) :
    find? other (bind name value entries) =
      if other = name then some value else find? other entries := by
  induction entries with
  | nil => simp [bind, find?]
  | cons entry rest ih =>
    obtain ⟨known, old⟩ := entry
    by_cases here : name = known
    · subst here
      simp only [bind, if_true, find?]
      split <;> rfl
    · simp only [bind, here, if_false, find?, ih]
      by_cases found : other = known
      · have differs : known ≠ name := fun equal => here equal.symm
        simp [found, differs]
      · simp [found]

theorem get?_insert (params : Params) (name other : String) (value : Value) :
    (params.insert name value).get? other =
      if other = name then some value else params.get? other :=
  find?_bind name other value params.entries

theorem names_bind (name : String) (value : Value) (entries : List (String × Value)) :
    (bind name value entries).map (·.1) =
      if name ∈ entries.map (·.1) then entries.map (·.1) else entries.map (·.1) ++ [name] := by
  induction entries with
  | nil => rfl
  | cons entry rest ih =>
    obtain ⟨known, old⟩ := entry
    by_cases here : name = known
    · simp [bind, here]
    · by_cases later : name ∈ rest.map (·.1)
      · simp only [later, if_true] at ih
        simp [bind, here, ih, later]
      · simp only [later, if_false] at ih
        simp [bind, here, ih, later]

theorem nodup_names_insert {params : Params} (distinct : params.names.Nodup) (name : String)
    (value : Value) : (params.insert name value).names.Nodup := by
  simp only [names, insert, names_bind]
  split
  · exact distinct
  · rename_i fresh
    rw [List.nodup_append]
    refine ⟨distinct, by simp, ?_⟩
    intro first member second single same
    exact fresh (List.mem_singleton.mp single ▸ same ▸ member)

theorem find?_eq_none_of_not_mem {name : String} {entries : List (String × Value)}
    (fresh : name ∉ entries.map (·.1)) : find? name entries = none := by
  induction entries with
  | nil => rfl
  | cons entry rest ih =>
    rw [List.map_cons, List.mem_cons, not_or] at fresh
    rw [find?, if_neg fresh.1, ih fresh.2]

theorem get?_extend {others : Params} (distinct : others.names.Nodup) (params : Params)
    (name : String) :
    (params.extend others).get? name = (others.get? name).or (params.get? name) := by
  obtain ⟨entries⟩ := others
  induction entries generalizing params with
  | nil => rfl
  | cons entry rest ih =>
    obtain ⟨bound, value⟩ := entry
    obtain ⟨fresh, distinct⟩ := List.nodup_cons.mp distinct
    have step : params.extend ⟨(bound, value) :: rest⟩ = (params.insert bound value).extend ⟨rest⟩ :=
      rfl
    rw [step, ih _ distinct, get?_insert]
    by_cases here : name = bound
    · -- The names are distinct, so what is bound here is not bound again.
      have once : Params.get? ⟨rest⟩ name = none := find?_eq_none_of_not_mem (here ▸ fresh)
      have first : Params.get? ⟨(bound, value) :: rest⟩ name = some value := if_pos here
      rw [once, first, if_pos here, Option.none_or, Option.some_or]
    · have later : Params.get? ⟨(bound, value) :: rest⟩ name = Params.get? ⟨rest⟩ name :=
        if_neg here
      rw [later, if_neg here]

end Params

end PathQuery
