/-
**Reading parts of a text.**

A scan takes the front of a text or fails. Numbers are runs of decimal digits, read up to a width
and written with zeros in front.

* `Scan.many`: a scan over and over. Each round takes something away, so there is a last one.
-/

import PathQuery.Text.Blank

namespace PathQuery.Text

/-- A scan takes the front of a text. -/
abbrev Scan (α : Type) := StateT (List Char) Option α

namespace Scan

variable {α : Type}

/-- Passes over blanks, if there are any. -/
def blanks : Scan Unit := modify trimStart

/-- Takes the next character, if there is one. -/
def next : Scan Char := do
  match ← get with
  | [] => failure
  | c :: rest =>
    set rest
    return c

/-- Looks at the next character. -/
def peek : Scan (Option Char) := do return (← get).head?

/-- Passes over one of these characters and tells which. -/
def oneOf (choices : List Char) : Scan Char := do
  let c ← next
  if c ∈ choices then return c else failure

/-- Passes over one of these characters, if it comes next. -/
def optional (choices : List Char) : Scan (Option Char) := do
  if (← peek).any (· ∈ choices) then some <$> next else return none

/-- The number that digits spell. -/
def valueOf (digits : List Char) : Nat := Nat.ofDigitChars 10 digits 0

/-- Takes the characters up to the first that is not of the kind. -/
def takeWhile (kind : Char → Bool) : Scan (List Char) := do
  let found := (← get).takeWhile kind
  modify (·.drop found.length)
  return found

/-- The digits at the front of a text. -/
def digits : Scan (List Char) := takeWhile Char.isDigit

/-- Reads at least one digit, all that there are. -/
def natural : Scan Nat := do
  let found ← digits
  if found.isEmpty then failure else return valueOf found

/-- Reads at least one digit and at most `width` of them. -/
def upTo (width : Nat) : Scan Nat := do
  let found := ((← get).take width).takeWhile Char.isDigit
  modify (·.drop found.length)
  if found.isEmpty then failure else return valueOf found

/-- Passes over this text if it comes next, and tells whether it did. -/
def literal (expected : List Char) : Scan Bool := do
  if expected.isPrefixOf (← get) then
    modify (·.drop expected.length)
    return true
  else return false

/-- Passes over this text, which has to come next. -/
def exactly (expected : List Char) : Scan Unit := do
  if ← literal expected then return () else failure

/-- Repeats a scan as long as it finds something. Every find has to take a character. -/
def many (item : Scan (Option α)) (text : List Char) : Option (List α × List Char) :=
  match item.run text with
  | none => none
  | some (none, rest) => some ([], rest)
  | some (some value, rest) =>
    if rest.length < text.length then
      (many item rest).map fun (values, left) => (value :: values, left)
    else none
termination_by text.length

/-- What a scan makes of a whole text. -/
def whole (scan : Scan α) (text : String) : Option α :=
  match scan.run text.toList with
  | some (value, []) => some value
  | _ => none

end Scan

/-- Decimal digits, with zeros in front up to a width. -/
def padded (width n : Nat) : List Char :=
  let digits := Nat.toDigits 10 n
  List.replicate (width - digits.length) '0' ++ digits

end PathQuery.Text
