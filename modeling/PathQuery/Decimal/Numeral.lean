/-
**Decimal numerals and the numbers that they stand for.**

A numeral is a whole part, perhaps a fraction and perhaps an exponent. Without the latter two it is
a whole number, kept exactly when it fits a signed or an unsigned word of 64 bits. Everything else
is a double: the first digits that fit an unsigned word make a significand, which is scaled by a
power of ten in double arithmetic.

* `significand_lt`: the significand fits its word.
-/

namespace PathQuery.Decimal

/-- A numeral taken apart. Digits are their values. -/
structure Numeral where
  negative : Bool
  whole : List Nat
  fraction : Option (List Nat)
  exponent : Option Int
  deriving DecidableEq, Repr

/-- A whole number that fits a signed or an unsigned word of 64 bits. -/
structure Whole where
  val : Int
  lower : -9223372036854775808 ≤ val
  upper : val < 18446744073709551616
  deriving DecidableEq

/-- The whole number itself, if it fits. -/
def Whole.ofInt? (n : Int) : Option Whole :=
  if fits : -9223372036854775808 ≤ n ∧ n < 18446744073709551616 then
    some ⟨n, fits.1, fits.2⟩
  else none

/-- A number as numerals have it: whole and exact, or a double. -/
inductive Number where
  | whole (n : Whole)
  | double (x : Float)

namespace Numeral

/-- Appends digits to a significand while it fits 64 bits; the number of digits that did. -/
def significand (start : Nat) : List Nat → Nat × Nat
  | [] => (start, 0)
  | digit :: rest =>
    if start * 10 + digit < 18446744073709551616 then
      let (value, used) := significand (start * 10 + digit) rest
      (value, used + 1)
    else (start, 0)

theorem significand_lt {start : Nat} (fits : start < 18446744073709551616) (digits : List Nat) :
    (significand start digits).1 < 18446744073709551616 := by
  induction digits generalizing start with
  | nil => simpa [significand] using fits
  | cons digit rest ih =>
    by_cases more : start * 10 + digit < 18446744073709551616
    · simpa only [significand, more, if_true] using ih more
    · simpa only [significand, more, if_false] using fits

/-- The double closest to a power of ten. -/
def powerOfTen (power : Nat) : Float := Float.ofScientific 1 false power

/-- A significand times a power of ten, in double arithmetic; nothing when it is too great. Very
small numbers are scaled in two steps. -/
def scale (significand : Nat) (power : Int) : Option Float :=
  let start := (UInt64.ofNat significand).toFloat
  if significand = 0 then some start
  else if 0 ≤ power then
    let scaled := start * powerOfTen power.toNat
    if power ≤ 308 && scaled.isFinite then some scaled else none
  else if -308 ≤ power then some (start / powerOfTen (-power).toNat)
  else if -616 ≤ power then some (start / powerOfTen 308 / powerOfTen (-power - 308).toNat)
  else some 0.0

/-- The double that a numeral stands for; nothing when it is too great. -/
def double? (numeral : Numeral) : Option Float :=
  let (upper, used) := significand 0 numeral.whole
  let (value, places) := significand upper (numeral.fraction.getD [])
  let exponent : Int := numeral.exponent.getD 0
  let dropped : Nat := numeral.whole.length - used
  let power : Int := exponent + dropped - places
  (scale value power).map fun x => if numeral.negative then -x else x

/-- The whole number that a numeral spells out. Minus zero is a double. -/
def whole? (numeral : Numeral) : Option Whole :=
  if numeral.fraction.isSome || numeral.exponent.isSome then none
  else
    let value : Nat := numeral.whole.foldl (fun n digit => n * 10 + digit) 0
    if numeral.negative then if value = 0 then none else Whole.ofInt? (-value)
    else Whole.ofInt? value

/-- The number that a numeral stands for; nothing when it is too great. -/
def number? (numeral : Numeral) : Option Number :=
  match numeral.whole? with
  | some n => some (.whole n)
  | none => numeral.double?.map .double

end Numeral

end PathQuery.Decimal
