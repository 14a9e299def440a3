/-
**Filters.**

A filter is a tree of groups. A group joins either its items or its nested groups with one
connective; if it has nested groups, its items do not count. An item compares a field with a
value. Groups without a connective and items without a comparison are inert.
-/

import PathQuery.Value

namespace PathQuery

/-- How the parts of a group are joined. -/
inductive Connective where
  | and
  | or
  deriving DecidableEq, Repr

/-- The word between the parts of a group. -/
def Connective.keyword : Connective → String
  | .and => "AND"
  | .or => "OR"

/-- How a field is compared with a value. -/
inductive Comparison where
  | equal
  | notEqual
  | less
  | lessOrEqual
  | greater
  | greaterOrEqual
  deriving DecidableEq, Repr

/-- The symbol of a comparison. -/
def Comparison.symbol : Comparison → String
  | .equal => "="
  | .notEqual => "!="
  | .less => "<"
  | .lessOrEqual => "<="
  | .greater => ">"
  | .greaterOrEqual => ">="

/-- A field compared with a value. -/
structure Item where
  field : String
  comparison : Option Comparison
  value : Value

/-- A group of items or of nested groups. -/
structure Filter where
  connective : Option Connective
  items : List Item
  groups : List Filter
  /-- The table that the fields of the items belong to. -/
  table : Option String

namespace Filter

/-- A group that joins items. -/
def ofItems (connective : Connective) (items : List Item) : Filter :=
  ⟨some connective, items, [], none⟩

/-- A group that joins groups. -/
def ofGroups (connective : Option Connective) (groups : List Filter) : Filter :=
  ⟨connective, [], groups, none⟩

/-- The same group with its fields in this table. -/
def ofTable (filter : Filter) (table : String) : Filter := { filter with table := some table }

/-- A group without items, groups and connective. -/
def isEmpty (filter : Filter) : Bool :=
  filter.items.isEmpty && filter.groups.isEmpty && filter.connective.isNone

end Filter

end PathQuery
