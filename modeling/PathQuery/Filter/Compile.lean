/-
**Filters as conditions of a statement.**

The condition of a filter is a text with parameters in place of the values. Parameters are named by
a stem and a number, counted over the whole tree from left to right. Inert items and groups leave
no trace, not even a number. Groups that come to nothing are left out, and parentheses stand around
nested groups where more than one of them is left.

* `Slots.bind`: every value gets the next number.
* `Filter.render`: the condition of a group, or nothing if the group is inert.
* `Filter.compile`: the condition of a whole tree. Only a tree without anything in it is refused.
-/

import PathQuery.Dialect
import PathQuery.Event
import PathQuery.Filter
import PathQuery.Params

namespace PathQuery

/-- A condition with the values of its parameters. -/
structure Clause where
  sql : String
  params : Params

/-- How conditions are written. -/
structure Style where
  dialect : Dialect
  /-- How the names of parameters begin. -/
  stem : String
  /-- Whether fields and the tables in front of them are quoted. -/
  quoteFields : Bool
  deriving DecidableEq, Repr

/-- The parameters handed out so far and the number of the next one. -/
structure Slots where
  next : Nat
  params : Params

/-- No parameters yet. -/
def Slots.empty : Slots := ⟨0, .empty⟩

/-- The name of a parameter. -/
def Style.parameter (style : Style) (number : Nat) : String := style.stem ++ toString number

/-- Binds a value to the next parameter. -/
def Slots.bind (style : Style) (value : Value) (slots : Slots) : Slots :=
  ⟨slots.next + 1, slots.params.insert (style.parameter slots.next) value⟩

namespace Style

/-- A field or a table as it is written in a condition. -/
def identifier (style : Style) (name : String) : String :=
  if style.quoteFields then style.dialect.quote name else name

/-- A field with its table in front of it, if it has one. -/
def field (style : Style) (table : Option String) (name : String) : String :=
  match table with
  | some table => style.identifier table ++ "." ++ style.identifier name
  | none => style.identifier name

/-- A single comparison. -/
def test (style : Style) (table : Option String) (name : String) (comparison : Comparison)
    (parameter : String) : String :=
  style.field table name ++ " " ++ comparison.symbol ++ " " ++ style.dialect.parameterMark ++
    parameter

end Style

/-- Parts with the word of the connective between them; no parts come to nothing. -/
def Connective.join (connective : Connective) : List String → Option String
  | [] => none
  | part :: others => some ((" " ++ connective.keyword ++ " ").intercalate (part :: others))

/-- Puts parentheses around parts where there is more than one. -/
def enclose (parts : List String) : List String :=
  if 1 < parts.length then parts.map fun part => "(" ++ part ++ ")" else parts

namespace Filter

/-- The comparisons of items, all of one table. -/
def renderItems (style : Style) (table : Option String) :
    List Item → Slots → List String × Slots
  | [], slots => ([], slots)
  | item :: rest, slots =>
    match item.comparison with
    | none => renderItems style table rest slots
    | some comparison =>
      let test := style.test table item.field comparison (style.parameter slots.next)
      let (tests, slots) := renderItems style table rest (slots.bind style item.value)
      (test :: tests, slots)

mutual

/-- The condition of a group. -/
def render (style : Style) : Filter → Slots → Option String × Slots
  | ⟨none, _, _, _⟩, slots => (none, slots)
  | ⟨some connective, items, groups, table⟩, slots =>
    if groups.isEmpty then
      let (tests, slots) := renderItems style table items slots
      (connective.join tests, slots)
    else
      let (parts, slots) := renderGroups style groups slots
      (connective.join (enclose parts), slots)

/-- The conditions of groups that come to something. -/
def renderGroups (style : Style) : List Filter → Slots → List String × Slots
  | [], slots => ([], slots)
  | group :: rest, slots =>
    let (part, slots) := render style group slots
    let (parts, slots) := renderGroups style rest slots
    (part.toList ++ parts, slots)

end

/-- The condition of a tree, and the events on the way. A tree that is inert altogether has the
empty condition. -/
def compile (style : Style) (filter : Filter) : Except Error Clause × List Event :=
  if filter.isEmpty then (.error .emptyFilter, [])
  else
    let (condition, slots) := filter.render style .empty
    let sql := condition.getD ""
    (.ok ⟨sql, slots.params⟩, [.filterCompiled sql slots.params.size])

end Filter

end PathQuery
