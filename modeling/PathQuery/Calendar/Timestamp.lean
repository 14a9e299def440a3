/-
**Points in time.**

A point in time is a day, a minute of it, a second and nanoseconds, all in UTC. Every minute may
have a second 60, which is kept as it is. Reading needs an offset from UTC, a whole number of
minutes, and moves the point to UTC.
-/

import PathQuery.Calendar.Date

namespace PathQuery

open Text (Scan padded)

/-- A point in time, in UTC. A leap second is the second 60 of its minute. Leap seconds behind any
other second than 59, which setting the nanoseconds of a time can make, are left out: they have no
text of their own, and would be written as the second behind them. -/
structure Timestamp where
  date : Date
  /-- The minute of the day. -/
  minute : Nat
  second : Nat
  nanosecond : Nat
  minute_lt : minute < 1440
  second_le : second ≤ 60
  nanosecond_lt : nanosecond < 1000000000
  deriving DecidableEq

namespace Timestamp

/-- The point with these parts, if there is one. -/
def ofParts? (date : Date) (minute second nanosecond : Nat) : Option Timestamp :=
  if inRange : minute < 1440 ∧ second ≤ 60 ∧ nanosecond < 1000000000 then
    some ⟨date, minute, second, nanosecond, inRange.1, inRange.2.1, inRange.2.2⟩
  else none

/-- Moves a minute of a local day to UTC, given the offset of the local time in minutes. -/
def toUtc? (date : Date) (minute : Nat) (offset : Int) : Option (Date × Nat) := do
  let moved := (minute : Int) - offset
  let day ←
    if moved < 0 then date.previous?
    else if 1440 ≤ moved then date.next?
    else some date
  return (day, (moved % 1440).toNat)

/-! ### Text -/

/-- Fractions of a second, with three, six or nine digits, or none. -/
def writeFraction (nanosecond : Nat) : List Char :=
  if nanosecond = 0 then []
  else if nanosecond % 1000000 = 0 then '.' :: padded 3 (nanosecond / 1000000)
  else if nanosecond % 1000 = 0 then '.' :: padded 6 (nanosecond / 1000)
  else '.' :: padded 9 nanosecond

/-- The characters of a point in time. -/
def write (time : Timestamp) : List Char :=
  time.date.write ++ 'T' :: padded 2 (time.minute / 60) ++ ':' :: padded 2 (time.minute % 60) ++
    ':' :: padded 2 time.second ++ writeFraction time.nanosecond ++ ['Z']

/-- Reads a colon and the number behind it. -/
def scanPart : Scan Nat := do
  Scan.blanks
  let _ ← Scan.oneOf [':']
  Scan.blanks
  Scan.upTo 2

/-- Reads a fraction of a second, as nanoseconds. Digits behind the ninth do not count. -/
def scanFraction : Scan Nat := do
  match ← Scan.optional ['.'] with
  | none => return 0
  | some _ =>
    let digits ← Scan.digits
    if digits.isEmpty then failure
    else
      let kept := digits.take 9
      return Scan.valueOf kept * Nat.pow 10 (9 - kept.length)

/-- Reads exactly two digits. -/
def scanPair : Scan Nat := do
  let tens ← Scan.next
  let ones ← Scan.next
  if tens.isDigit && ones.isDigit then return Scan.valueOf [tens, ones] else failure

/-- Passes over the name of UTC, in either case, if it comes next. -/
def scanName : Scan Bool := do
  let text ← get
  if (text.take 3).map Char.toUpper = ['U', 'T', 'C'] then
    set (text.drop 3)
    return true
  else return false

/-- Reads an offset from UTC, in minutes: the name of UTC, `Z`, or a sign, hours and minutes. -/
def scanOffset : Scan Int := do
  if ← scanName then return 0
  let mark ← Scan.oneOf ['Z', 'z', '+', '-', '−']
  if mark = 'Z' ∨ mark = 'z' then return 0
  let hours ← scanPair
  modify (·.dropWhile fun c => c == ':' || Text.isBlank c)
  let minutes ← scanPair
  if 60 ≤ minutes ∨ 24 ≤ hours then failure
  let size : Int := hours * 60 + minutes
  return if mark = '+' then size else -size

/-- Reads a point in time. Blanks may stand in front of most parts. -/
def scan : Scan Timestamp := do
  let date ← Date.scan
  let _ ← Scan.oneOf ['T', 't', ' ']
  Scan.blanks
  let hour ← Scan.upTo 2
  let minute ← scanPart
  let second ← scanPart
  let nanosecond ← scanFraction
  Scan.blanks
  let offset ← scanOffset
  if 24 ≤ hour ∨ 60 ≤ minute then failure
  let (date, minute) ← toUtc? date (hour * 60 + minute) offset
  ofParts? date minute second nanosecond

/-- The point in time that a text spells, with or without blanks behind it. -/
def parse? (text : String) : Option Timestamp := Scan.whole (scan <* Scan.blanks) text

end Timestamp

end PathQuery
