/-
**Where the values of parameters come from.**

The values of a compiled filter are those of the items that it compares. Such an item has an address
in the filter, and other values do not move it.

* `Filter.placed`: the items that are compared, from left to right, each with its address;
* `Filter.itemAt?_of_mem_placed`: they stand at their addresses;
* `Filter.binds_of_compile`: each parameter of a compiled filter has the value of the item at the
  address with its number;
* `Filter.addresses_mapValues`: the addresses of a filter with other values are the same.
-/

import PathQuery.Proofs.Filter.Parameters
import PathQuery.Proofs.Filter.Values

namespace PathQuery

/-- Where an item stands in a filter: the groups that lead to it, each by its number among the
groups beside it, and its own number among the items. -/
structure Address where
  groups : List Nat
  item : Nat
  deriving DecidableEq, Repr

/-- An address in a group as one from above. -/
def Address.below (number : Nat) (address : Address) : Address :=
  { address with groups := number :: address.groups }

namespace Filter

/-- The group that these groups lead to. -/
def group? : List Nat → Filter → Option Filter
  | [], filter => some filter
  | number :: rest, filter => filter.groups[number]?.bind (group? rest)

/-- The item at an address. -/
def itemAt? (filter : Filter) (address : Address) : Option Item :=
  (filter.group? address.groups).bind (·.items[address.item]?)

/-- The items of one group that are compared. -/
def placedItems (number : Nat) (items : List Item) : List (Address × Item) :=
  ((items.zipIdx number).filter (·.1.comparison.isSome)).map fun entry => (⟨[], entry.2⟩, entry.1)

mutual

/-- The items of a filter that are compared, from left to right, each with its address. -/
def placed : Filter → List (Address × Item)
  | ⟨none, _, _, _⟩ => []
  | ⟨some _, items, groups, _⟩ =>
    if groups.isEmpty then placedItems 0 items else placedOf 0 groups

/-- The items of groups that are compared, where the groups have numbers from this one on. -/
def placedOf (number : Nat) : List Filter → List (Address × Item)
  | [] => []
  | group :: rest =>
    (placed group).map (fun entry => (entry.1.below number, entry.2)) ++
      placedOf (number + 1) rest

end

/-- The addresses of the items that are compared, from left to right. -/
def addresses (filter : Filter) : List Address := filter.placed.map (·.1)

/-- **Parameters that hold the values of a filter**, each that of the item at the address with its
number. -/
structure Binds (style : Style) (filter : Filter) (params : Params) : Prop where
  names : params.names = (List.range filter.addresses.length).map style.parameter
  values : ∀ number address, filter.addresses[number]? = some address →
    ∃ item, filter.itemAt? address = some item ∧
      params.get? (style.parameter number) = some item.value

/-! ### Items at their addresses -/

theorem itemAt?_below {filter group : Filter} {number : Nat}
    (there : filter.groups[number]? = some group) (address : Address) :
    filter.itemAt? (address.below number) = group.itemAt? address := by
  show ((filter.groups[number]?.bind (group? address.groups)).bind _) = _
  rw [there]
  rfl

mutual

theorem itemAt?_of_mem_placed (filter : Filter) :
    ∀ entry ∈ filter.placed, filter.itemAt? entry.1 = some entry.2 :=
  match filter with
  | ⟨none, _, _, _⟩ => by
    intro entry member
    rw [placed] at member
    cases member
  | ⟨some connective, items, groups, table⟩ => by
    intro entry member
    rw [placed] at member
    split at member
    · obtain ⟨⟨item, number⟩, listed, rfl⟩ := List.mem_map.mp member
      exact List.mem_zipIdx_iff_getElem?.mp (List.mem_filter.mp listed).1
    · obtain ⟨place, address, group, moved, there, found⟩ :=
        itemAt?_of_mem_placedOf groups 0 entry member
      rw [moved, Nat.zero_add, itemAt?_below there, found]

/-- An item of some groups stands in one of them. -/
theorem itemAt?_of_mem_placedOf (groups : List Filter) (number : Nat) :
    ∀ entry ∈ placedOf number groups, ∃ place address group,
      entry.1 = Address.below (number + place) address ∧ groups[place]? = some group ∧
        group.itemAt? address = some entry.2 :=
  match groups with
  | [] => by
    intro entry member
    cases member
  | group :: rest => by
    intro entry member
    rw [placedOf] at member
    rcases List.mem_append.mp member with here | later
    · obtain ⟨inner, listed, rfl⟩ := List.mem_map.mp here
      exact ⟨0, inner.1, group, rfl, rfl, itemAt?_of_mem_placed group inner listed⟩
    · obtain ⟨place, address, other, moved, there, found⟩ :=
        itemAt?_of_mem_placedOf rest (number + 1) entry later
      refine ⟨place + 1, address, other, ?_, there, found⟩
      rw [moved, Nat.add_assoc, Nat.add_comm 1]

end

/-! ### The values of leaves -/

theorem map_value_placedItems (table : Option String) (items : List Item) (number : Nat) :
    (placedItems number items).map (·.2.value) = (atoms table items).map (·.value) := by
  induction items generalizing number with
  | nil => rfl
  | cons item rest ih =>
    have later := ih (number + 1)
    unfold placedItems atoms at later ⊢
    cases compares : item.comparison with
    | none => simpa [Item.atom?, compares] using later
    | some comparison => simpa [Item.atom?, compares] using later

mutual

/-- **The leaves of a filter have the values of the items that are compared**, in their order. -/
theorem map_value_placed (filter : Filter) :
    filter.placed.map (·.2.value) = filter.leaves.map (·.value) :=
  match filter with
  | ⟨none, _, _, _⟩ => by
    rw [placed, leaves]
    rfl
  | ⟨some connective, items, groups, table⟩ => by
    rw [placed, leaves]
    split
    · exact map_value_placedItems table items 0
    · exact map_value_placedOf groups 0

theorem map_value_placedOf (groups : List Filter) (number : Nat) :
    (placedOf number groups).map (·.2.value) = (leavesOf groups).map (·.value) :=
  match groups with
  | [] => rfl
  | group :: rest => by
    rw [placedOf, leavesOf, List.map_append, List.map_append, List.map_map,
      ← map_value_placed group, ← map_value_placedOf rest (number + 1)]
    rfl

end

/-- **Parameters come from addresses.** A compiled filter has a parameter for every item that it
compares, with the value of that item. -/
theorem binds_of_compile {style : Style} {filter : Filter} {clause : Clause}
    (compiled : (filter.compile style).1 = .ok clause) : filter.Binds style clause.params := by
  obtain ⟨tokens, same, _⟩ := exists_tokens_of_compile style (isEmpty_of_compile compiled)
  rw [same] at compiled
  cases compiled
  have values := map_value_placed filter
  have many : filter.addresses.length = filter.leaves.length := by
    have counted := congrArg List.length values
    rwa [List.length_map, List.length_map, ← List.length_map (·.1)] at counted
  constructor
  · rw [many, List.range_eq_range']
    exact NormalForm.names_bindings style 0 filter.leaves
  · intro number address listed
    unfold addresses at listed
    rw [List.getElem?_map] at listed
    obtain ⟨entry, there, rfl⟩ := Option.map_eq_some_iff.mp listed
    refine ⟨entry.2, itemAt?_of_mem_placed filter entry (List.mem_of_getElem? there), ?_⟩
    -- The leaf with this number has the value of the item.
    have value : (filter.leaves.map (·.value))[number]? = some entry.2.value := by
      rw [← values, List.getElem?_map, there]
      rfl
    rw [List.getElem?_map] at value
    obtain ⟨leaf, found, valued⟩ := Option.map_eq_some_iff.mp value
    have bound := NormalForm.mem_bindings style found 0
    rw [Nat.zero_add, valued] at bound
    exact NormalForm.binds_bindings style 0 filter.leaves _ bound

/-! ### Other values -/

section Other

variable (change : Value → Value)

theorem placedItems_map (items : List Item) (number : Nat) :
    placedItems number (items.map (Item.mapValue change)) =
      (placedItems number items).map fun entry => (entry.1, entry.2.mapValue change) := by
  unfold placedItems
  rw [List.zipIdx_map, List.filter_map, List.map_map, List.map_map]
  rfl

mutual

/-- **Other values do not move the items that are compared.** -/
theorem placed_mapValues (filter : Filter) :
    (filter.mapValues change).placed =
      filter.placed.map fun entry => (entry.1, entry.2.mapValue change) :=
  match filter with
  | ⟨none, _, _, _⟩ => by
    rw [mapValues, placed, placed]
    rfl
  | ⟨some connective, items, groups, table⟩ => by
    rw [mapValues, placed, placed, isEmpty_mapValuesOf]
    split
    · exact placedItems_map change items 0
    · exact placedOf_mapValuesOf groups 0

theorem placedOf_mapValuesOf (groups : List Filter) (number : Nat) :
    placedOf number (mapValuesOf change groups) =
      (placedOf number groups).map fun entry => (entry.1, entry.2.mapValue change) :=
  match groups with
  | [] => rfl
  | group :: rest => by
    rw [mapValuesOf, placedOf, placedOf, placed_mapValues group,
      placedOf_mapValuesOf rest (number + 1), List.map_append, List.map_map, List.map_map]
    rfl

end

theorem addresses_mapValues (filter : Filter) :
    (filter.mapValues change).addresses = filter.addresses := by
  unfold addresses
  rw [placed_mapValues, List.map_map]
  rfl

end Other

end Filter

end PathQuery
