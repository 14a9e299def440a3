/-
**Options by name.**

The kind of a join, the connective of a group and the comparison of an item may be unset. In
settings and filters they go by names, one of which stands for being unset.

* `Named.ofName?_name`: an option is found by its name.
-/

import PathQuery.Filter
import PathQuery.Join
import PathQuery.Json.Reader

namespace PathQuery

open Json (Fault Reader)

/-- Options that go by names. -/
class Named (α : Type) where
  /-- The name of an option, or of none. -/
  name : Option α → String
  /-- All options, and none. -/
  all : List (Option α)
  ofName_name : ∀ choice, all.find? (name · == name choice) = some choice

namespace Named

variable {α : Type} [Named α]

/-- The option with this name. -/
def ofName? (text : String) : Option (Option α) := all.find? (name · == text)

theorem ofName?_name (choice : Option α) : ofName? (name choice) = some choice :=
  ofName_name choice

/-- Reads an option: its name alone, or its name with null as its content. -/
def read : Reader (Option α) :=
  Reader.tagged ofName? some fun choice => do
    Reader.null
    return choice

/-- The option that a document describes: its name alone, or its name with null as its content. -/
def ofDocument? : Json → Option (Option α)
  | .text name => ofName? name
  | .object [(name, .null)] => ofName? name
  | _ => none

/-- The option that a text holds. -/
def ofText (text : String) : Except Fault (Option α) := Reader.run read text

end Named

instance : Named JoinKind where
  name
    | none => "none"
    | some .inner => "inner"
    | some .left => "left"
    | some .right => "right"
    | some .fullOuter => "full_outer"
  all := [none, some .inner, some .left, some .right, some .fullOuter]
  ofName_name := by rintro (_ | _ | _ | _ | _) <;> rfl

instance : Named Connective where
  name
    | none => "None"
    | some .and => "And"
    | some .or => "Or"
  all := [none, some .and, some .or]
  ofName_name := by rintro (_ | _ | _) <;> rfl

instance : Named Comparison where
  name
    | none => "None"
    | some .equal => "Equal"
    | some .notEqual => "NotEqual"
    | some .less => "Less"
    | some .lessOrEqual => "LessOrEqual"
    | some .greater => "Greater"
    | some .greaterOrEqual => "GreaterOrEqual"
  all := [none, some .equal, some .notEqual, some .less, some .lessOrEqual, some .greater,
    some .greaterOrEqual]
  ofName_name := by rintro (_ | _ | _ | _ | _ | _ | _) <;> rfl

end PathQuery
