/-
**JSON documents.**

Whole numbers stay whole, so `1` and `1.0` are different documents. The members of an object are
kept in the order of their keys, by code points, and a key that comes again replaces its value.

* `Json.get?_insert`: inserting a member changes what its key looks up, and nothing else.
-/

import PathQuery.Decimal.Numeral

namespace PathQuery

/-- A JSON document. -/
inductive Json where
  | null
  | boolean (value : Bool)
  | number (value : Decimal.Number)
  | text (value : String)
  | array (items : List Json)
  | object (members : List (String × Json))

namespace Json

/-- Sets a member, keeping the keys in order. -/
def insert (key : String) (value : Json) : List (String × Json) → List (String × Json)
  | [] => [(key, value)]
  | (other, known) :: rest =>
    if key = other then (key, value) :: rest
    else if key < other then (key, value) :: (other, known) :: rest
    else (other, known) :: insert key value rest

/-- The value of the member with this key. -/
def get? (key : String) : List (String × Json) → Option Json
  | [] => none
  | (other, value) :: rest => if key = other then some value else get? key rest

/-- Two numbers are the same when both are whole and equal, or both are doubles and equal. -/
def sameNumber : Decimal.Number → Decimal.Number → Bool
  | .whole first, .whole second => first == second
  | .double first, .double second => first == second
  | _, _ => false

mutual

/-- Equality of documents. Doubles are compared as such, so minus zero is zero. -/
def same : Json → Json → Bool
  | .null, .null => true
  | .boolean first, .boolean second => first == second
  | .number first, .number second => sameNumber first second
  | .text first, .text second => first == second
  | .array first, .array second => sameItems first second
  | .object first, .object second => sameMembers first second
  | _, _ => false

/-- Equality of the items of arrays. -/
def sameItems : List Json → List Json → Bool
  | [], [] => true
  | first :: rest, second :: others => same first second && sameItems rest others
  | _, _ => false

/-- Equality of the members of objects. -/
def sameMembers : List (String × Json) → List (String × Json) → Bool
  | [], [] => true
  | (key, first) :: rest, (other, second) :: others =>
    key == other && same first second && sameMembers rest others
  | _, _ => false

end

/-- A whole number as a document. -/
def ofNat (n : Nat) : Json :=
  match Decimal.Whole.ofInt? n with
  | some whole => .number (.whole whole)
  | none => .null

theorem get?_insert (key other : String) (value : Json) (members : List (String × Json)) :
    get? other (insert key value members) =
      if other = key then some value else get? other members := by
  induction members with
  | nil => simp [insert, get?]
  | cons member rest ih =>
    obtain ⟨known, old⟩ := member
    by_cases same : key = known
    · subst same
      simp only [insert, if_true, get?]
      split <;> rfl
    · by_cases before : key < known
      · simp [insert, same, before, get?]
      · simp only [insert, same, before, if_false, get?, ih]
        by_cases found : other = known
        · have differs : known ≠ key := fun equal => same equal.symm
          simp [found, differs]
        · simp [found]

end Json

end PathQuery
