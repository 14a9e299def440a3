/-
**What filters mean.**

Once it is known which single comparisons are true, a filter is true or false. A group counts if it
is live: it has a connective and, below it, something to compare. What does not count is left out,
as if it were not there.

* `Filter.leaves`: the comparisons that a filter makes, from left to right.
* `Filter.holds`: the truth of a filter.
-/

import PathQuery.Filter

namespace PathQuery

/-- A field, perhaps of a named table, compared with a value. -/
structure Atom where
  table : Option String
  field : String
  comparison : Comparison
  value : Value

/-- What an item says about the fields of a table. An inert item says nothing. -/
def Item.atom? (table : Option String) (item : Item) : Option Atom :=
  item.comparison.map fun comparison => ⟨table, item.field, comparison, item.value⟩

/-- The truth of a group from the truth of its parts. -/
def Connective.holds : Connective → List Bool → Bool
  | .and, parts => parts.all id
  | .or, parts => parts.any id

namespace Filter

/-- What the items of a group say. -/
def atoms (table : Option String) (items : List Item) : List Atom :=
  items.filterMap (Item.atom? table)

mutual

/-- A group counts if it has a connective and something below it counts. -/
def isLive : Filter → Bool
  | ⟨none, _, _, _⟩ => false
  | ⟨some _, items, groups, _⟩ =>
    if groups.isEmpty then items.any (·.comparison.isSome) else anyLive groups

/-- Whether one of these groups counts. -/
def anyLive : List Filter → Bool
  | [] => false
  | group :: rest => isLive group || anyLive rest

end

mutual

/-- The comparisons of a group, from left to right. -/
def leaves : Filter → List Atom
  | ⟨none, _, _, _⟩ => []
  | ⟨some _, items, groups, table⟩ =>
    if groups.isEmpty then atoms table items else leavesOf groups

/-- The comparisons of groups, from left to right. -/
def leavesOf : List Filter → List Atom
  | [] => []
  | group :: rest => leaves group ++ leavesOf rest

end

mutual

/-- The truth of a group, given the truth of every comparison. -/
def holds (truth : Atom → Bool) : Filter → Bool
  | ⟨none, _, _, _⟩ => false
  | ⟨some connective, items, groups, table⟩ =>
    connective.holds
      (if groups.isEmpty then (atoms table items).map truth else truths truth groups)

/-- The truth of every group that counts. -/
def truths (truth : Atom → Bool) : List Filter → List Bool
  | [] => []
  | group :: rest =>
    if isLive group then holds truth group :: truths truth rest else truths truth rest

end

end Filter

end PathQuery
