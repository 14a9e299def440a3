/-
**Writing JSON.**

Documents are written without white space, the members of an object in the order in which they are
kept.
-/

import PathQuery.Decimal.Layout
import PathQuery.Json.Basic
import PathQuery.Json.Text

namespace PathQuery.Json

open Decimal (Number Layout)

/-- Doubles are written positionally from 0.00001 on and below 10 to the power 16. -/
def doubleLayout : Layout := ⟨-5, 16⟩

/-- A double as it is written; those that are not finite have no spelling of their own. -/
def printDouble (x : Float) : List Char :=
  if x.isFinite then doubleLayout.write x else "null".toList

/-- A whole number as it is written. -/
def printWhole (n : Int) : List Char :=
  if n < 0 then '-' :: Nat.toDigits 10 n.natAbs else Nat.toDigits 10 n.natAbs

/-- A number as it is written. -/
def printNumber : Number → List Char
  | .whole n => printWhole n.val
  | .double x => printDouble x

/-- A truth value as it is written. -/
def printBoolean (value : Bool) : List Char := (if value then "true" else "false").toList

mutual

/-- A document as it is written. -/
def print : Json → List Char
  | .null => "null".toList
  | .boolean value => printBoolean value
  | .number value => printNumber value
  | .text value => Text.print value
  | .array [] => ['[', ']']
  | .array (item :: rest) => '[' :: (print item ++ printItems rest ++ [']'])
  | .object [] => ['{', '}']
  | .object ((key, value) :: rest) =>
    '{' :: (Text.print key ++ ':' :: print value ++ printMembers rest ++ ['}'])

/-- Items behind the first, each with the comma in front of it. -/
def printItems : List Json → List Char
  | [] => []
  | item :: rest => ',' :: print item ++ printItems rest

/-- Members behind the first, each with the comma in front of it. -/
def printMembers : List (String × Json) → List Char
  | [] => []
  | (key, value) :: rest => ',' :: Text.print key ++ ':' :: print value ++ printMembers rest

end

/-- The text of a document. -/
def toText (document : Json) : String := String.ofList (print document)

end PathQuery.Json
