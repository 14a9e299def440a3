/-
**Days of the Gregorian calendar.**

The calendar is extended to all years in a range on either side of year zero. A day is written as
year, month and day with hyphens; years beyond four digits and years before zero carry a sign.
Reading is generous with blanks and with missing zeros.

* `Date.next?`, `Date.previous?`: the neighbours of a day, unless the range ends there.
-/

import PathQuery.Text.Scan

namespace PathQuery

open Text (Scan padded)

namespace Calendar

/-- Years with a 29th of February. -/
def isLeap (year : Int) : Bool := year % 4 == 0 && (year % 100 != 0 || year % 400 == 0)

/-- The number of days of a month. -/
def daysIn (year : Int) (month : Nat) : Nat :=
  if month = 2 then if isLeap year then 29 else 28
  else if month = 4 ∨ month = 6 ∨ month = 9 ∨ month = 11 then 30
  else 31

/-- The first year of the range. -/
def firstYear : Int := -262143

/-- The last year of the range. -/
def lastYear : Int := 262142

/-- Days that exist. -/
def IsDay (year : Int) (month day : Nat) : Prop :=
  (firstYear ≤ year ∧ year ≤ lastYear) ∧ (1 ≤ month ∧ month ≤ 12) ∧
    (1 ≤ day ∧ day ≤ daysIn year month)

instance (year : Int) (month day : Nat) : Decidable (IsDay year month day) := by
  unfold IsDay
  exact inferInstance

end Calendar

open Calendar

/-- A day. -/
structure Date where
  year : Int
  month : Nat
  day : Nat
  isDay : IsDay year month day
  deriving DecidableEq

namespace Date

/-- The day with this year, month and day, if there is one. -/
def ofParts? (year : Int) (month day : Nat) : Option Date :=
  if isDay : IsDay year month day then some ⟨year, month, day, isDay⟩ else none

/-- The day after. -/
def next? (date : Date) : Option Date :=
  if date.day < daysIn date.year date.month then ofParts? date.year date.month (date.day + 1)
  else if date.month < 12 then ofParts? date.year (date.month + 1) 1
  else ofParts? (date.year + 1) 1 1

/-- The day before. -/
def previous? (date : Date) : Option Date :=
  if 1 < date.day then ofParts? date.year date.month (date.day - 1)
  else if 1 < date.month then
    ofParts? date.year (date.month - 1) (daysIn date.year (date.month - 1))
  else ofParts? (date.year - 1) 12 31

/-! ### Text -/

/-- A year as it is written. -/
def writeYear (year : Int) : List Char :=
  if 0 ≤ year ∧ year ≤ 9999 then padded 4 year.toNat
  else (if year < 0 then '-' else '+') :: padded 4 year.natAbs

/-- The characters of a day. -/
def write (date : Date) : List Char :=
  writeYear date.year ++ '-' :: padded 2 date.month ++ '-' :: padded 2 date.day

/-- Reads a year. Only a sign allows more than four digits. -/
def scanYear : Scan Int := do
  match ← Scan.optional ['-', '+'] with
  | none => return ((← Scan.upTo 4 : Nat) : Int)
  | some sign =>
    let size ← Scan.natural
    return if sign = '-' then -(size : Int) else size

/-- Reads a hyphen and the number behind it. -/
def scanPart : Scan Nat := do
  Scan.blanks
  let _ ← Scan.oneOf ['-']
  Scan.blanks
  Scan.upTo 2

/-- Reads a day. Blanks may stand in front of every part. -/
def scan : Scan Date := do
  Scan.blanks
  let year ← scanYear
  let month ← scanPart
  let day ← scanPart
  ofParts? year month day

/-- The day that a text spells, with or without blanks behind it. -/
def parse? (text : String) : Option Date := Scan.whole (scan <* Scan.blanks) text

end Date

end PathQuery
