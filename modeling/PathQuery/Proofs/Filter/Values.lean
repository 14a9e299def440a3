/-
**Compiling does not look at values.**

The values of a filter go from its items into the parameters, and nowhere else. So it makes no
difference whether they are changed in the filter or in what it compiles to:

* `Filter.mapValues`, `Params.mapValues`, `Clause.mapValues`: other values, each from the one in its
  place;
* `Filter.render_mapValues`: the condition is the same, and the values that are bound are changed;
* `Filter.compile_mapValues`: so a filter with other values compiles to the same text, or is refused
  all the same.
-/

import PathQuery.Filter.Compile

namespace PathQuery

/-! ### Other values -/

/-- An item with another value. -/
def Item.mapValue (change : Value → Value) (item : Item) : Item :=
  { item with value := change item.value }

namespace Filter

mutual

/-- A filter with other values in its items, each from the one in its place. -/
def mapValues (change : Value → Value) : Filter → Filter
  | ⟨connective, items, groups, table⟩ =>
    ⟨connective, items.map (Item.mapValue change), mapValuesOf change groups, table⟩

/-- Groups with other values in their items. -/
def mapValuesOf (change : Value → Value) : List Filter → List Filter
  | [] => []
  | group :: rest => mapValues change group :: mapValuesOf change rest

end

end Filter

/-- Parameters with other values under the same names. -/
def Params.mapValues (change : Value → Value) (params : Params) : Params :=
  ⟨params.entries.map fun entry => (entry.1, change entry.2)⟩

/-- A condition with other values for its parameters. -/
def Clause.mapValues (change : Value → Value) (clause : Clause) : Clause :=
  { clause with params := clause.params.mapValues change }

/-- As many parameters with other values. -/
def Slots.mapValues (change : Value → Value) (slots : Slots) : Slots :=
  { slots with params := slots.params.mapValues change }

variable (change : Value → Value)

/-! ### Parameters -/

namespace Params

theorem size_mapValues (params : Params) : (params.mapValues change).size = params.size :=
  List.length_map _

/-- A value is bound and then changed, or changed and then bound. -/
theorem mapValues_insert (params : Params) (name : String) (value : Value) :
    (params.insert name value).mapValues change =
      (params.mapValues change).insert name (change value) := by
  obtain ⟨entries⟩ := params
  unfold insert mapValues
  congr 1
  induction entries with
  | nil => rfl
  | cons entry rest ih =>
    obtain ⟨known, old⟩ := entry
    by_cases here : name = known
    · simp only [bind, here, if_true, List.map_cons]
    · simp only [bind, here, if_false, List.map_cons, ih]

theorem mapValues_extend (params others : Params) :
    (params.extend others).mapValues change =
      (params.mapValues change).extend (others.mapValues change) := by
  obtain ⟨entries⟩ := others
  unfold extend
  induction entries generalizing params with
  | nil => rfl
  | cons entry rest ih =>
    rw [List.foldl_cons, ih, mapValues_insert]
    rfl

end Params

theorem Slots.mapValues_bind (style : Style) (value : Value) (slots : Slots) :
    (slots.bind style value).mapValues change =
      (slots.mapValues change).bind style (change value) := by
  unfold bind mapValues
  rw [Params.mapValues_insert]

/-! ### Filters -/

namespace Filter

theorem isEmpty_mapValuesOf (groups : List Filter) :
    (mapValuesOf change groups).isEmpty = groups.isEmpty := by
  cases groups <;> rfl

theorem isEmpty_mapValues (filter : Filter) :
    (filter.mapValues change).isEmpty = filter.isEmpty := by
  obtain ⟨connective, items, groups, table⟩ := filter
  simp only [mapValues, isEmpty, isEmpty_mapValuesOf, List.isEmpty_map]

variable (style : Style)

/-- **Items with other values make the same tests**, and their own values are bound. -/
theorem renderItems_mapValues (table : Option String) (items : List Item) (slots : Slots) :
    renderItems style table (items.map (Item.mapValue change)) (slots.mapValues change) =
      ((renderItems style table items slots).1,
        (renderItems style table items slots).2.mapValues change) := by
  induction items generalizing slots with
  | nil => rfl
  | cons item rest ih =>
    have same : (item.mapValue change).comparison = item.comparison := rfl
    rw [List.map_cons, renderItems, renderItems, same]
    cases item.comparison with
    | none => exact ih slots
    | some comparison =>
      have bound : (slots.mapValues change).bind style (item.mapValue change).value =
          (slots.bind style item.value).mapValues change :=
        (Slots.mapValues_bind change style item.value slots).symm
      dsimp only
      rw [bound, ih]
      rfl

mutual

/-- **A filter with other values renders to the same condition**, and its own values are bound. -/
theorem render_mapValues (filter : Filter) (slots : Slots) :
    (filter.mapValues change).render style (slots.mapValues change) =
      ((filter.render style slots).1, (filter.render style slots).2.mapValues change) :=
  match filter with
  | ⟨none, _, _, _⟩ => by
    rw [mapValues, render, render]
  | ⟨some connective, items, groups, table⟩ => by
    rw [mapValues, render, render, isEmpty_mapValuesOf]
    split
    · rw [renderItems_mapValues]
    · rw [renderGroups_mapValues groups]

theorem renderGroups_mapValues (groups : List Filter) (slots : Slots) :
    renderGroups style (mapValuesOf change groups) (slots.mapValues change) =
      ((renderGroups style groups slots).1,
        (renderGroups style groups slots).2.mapValues change) :=
  match groups with
  | [] => rfl
  | group :: rest => by
    rw [mapValuesOf, renderGroups, renderGroups, render_mapValues group]
    dsimp only
    rw [renderGroups_mapValues rest]

end

/-- **A filter with other values compiles to the same text**, with its own values, or is refused all
the same. The events do not tell the values either. -/
theorem compile_mapValues (filter : Filter) :
    (filter.mapValues change).compile style =
      ((filter.compile style).1.map (Clause.mapValues change), (filter.compile style).2) := by
  have empty : Slots.empty = Slots.empty.mapValues change := rfl
  unfold compile
  rw [isEmpty_mapValues]
  split
  · rfl
  · rw [empty, render_mapValues, ← empty]
    dsimp only [Slots.mapValues]
    rw [Params.size_mapValues]
    rfl

end Filter

end PathQuery
