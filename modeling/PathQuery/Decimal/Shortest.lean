/-
**The fewest decimal digits that identify a double.**

A double is `m · 2 ^ q`, and the reals that round to it form an interval around it, whose ends
belong to it when `m` is even. On the grid of the decimals with a given last place only the two
neighbours of the value can be the closest in that interval. The coarsest grid with a neighbour
in the interval wins; of two neighbours the closer one is taken, and an exact tie goes to the
even one.

Everything is exact arithmetic on natural numbers: a real is a quarter of the unit `2 ^ q` times a
natural number, and a comparison with a grid point clears both denominators.

* `Binary64.ofBits`: the double as `m` and `q`.
* `Binary64.shortest`: the digits without trailing zeros, and the power of ten of the first one.
-/

namespace PathQuery.Decimal

/-- A positive double, `mantissa · 2 ^ exponent`. -/
structure Binary64 where
  mantissa : Nat
  exponent : Int
  /-- Doubles below this one lie half as far apart as those above it. -/
  isPower : Bool
  deriving DecidableEq, Repr

namespace Binary64

/-- The double with these bits, leaving the sign aside. -/
def ofBits (bits : UInt64) : Binary64 :=
  let fraction : Nat := bits.toNat % Nat.pow 2 52
  let biased : Nat := bits.toNat / Nat.pow 2 52 % Nat.pow 2 11
  if biased = 0 then ⟨fraction, -1074, false⟩
  else ⟨Nat.pow 2 52 + fraction, biased - 1075, fraction = 0 && 1 < biased⟩

/-- Four times the value, in units of `2 ^ exponent`. -/
def quarters (x : Binary64) : Nat := 4 * x.mantissa

/-- The lower end of the interval, in quarters. -/
def lower (x : Binary64) : Nat := x.quarters - if x.isPower then 1 else 2

/-- The upper end of the interval, in quarters. -/
def upper (x : Binary64) : Nat := x.quarters + 2

/-- A quarter of the unit over the step `10 ^ place` of a grid, as numerator and denominator. -/
def ratio (x : Binary64) (place : Int) : Nat × Nat :=
  let shift := x.exponent - 2
  (Nat.pow 2 shift.toNat * Nat.pow 10 (-place).toNat,
    Nat.pow 2 (-shift).toNat * Nat.pow 10 place.toNat)

/-- Whether the grid point `n · 10 ^ place` rounds to the double. -/
def readsBack (x : Binary64) (place : Int) (n : Nat) : Bool :=
  let (numerator, denominator) := x.ratio place
  let point := n * denominator
  if x.mantissa % 2 = 0 then x.lower * numerator ≤ point && point ≤ x.upper * numerator
  else x.lower * numerator < point && point < x.upper * numerator

/-- The closest grid point that rounds to the double. -/
def onGrid? (x : Binary64) (place : Int) : Option Nat :=
  let (numerator, denominator) := x.ratio place
  let value := x.quarters * numerator
  let below := value / denominator
  let above := below + 1
  match x.readsBack place below, x.readsBack place above with
  | false, false => none
  | true, false => some below
  | false, true => some above
  | true, true =>
    let middle := (below + above) * denominator
    if 2 * value < middle then some below
    else if middle < 2 * value then some above
    else if below % 2 = 0 then some below else some above

/-- The number of decimal digits. -/
def countDigits (n : Nat) : Nat := (Nat.toDigits 10 n).length

/-- The power of ten of the value's first digit. -/
def leading (x : Binary64) : Int :=
  let (numerator, denominator) := x.ratio 0
  let value := x.quarters * numerator
  if denominator ≤ value then countDigits (value / denominator) - 1
  else -countDigits ((denominator - 1) / value)

/-- The digits of `n · 10 ^ place` without trailing zeros, and the power of ten of the first. -/
def digitsOf (n : Nat) (place : Int) : List Char × Int :=
  let digits := Nat.toDigits 10 n
  ((digits.reverse.dropWhile (· == '0')).reverse, place + digits.length - 1)

/-- The value itself, which always reads back. -/
def exact (x : Binary64) : List Char × Int :=
  if 0 ≤ x.exponent then digitsOf (x.mantissa * Nat.pow 2 x.exponent.toNat) 0
  else digitsOf (x.mantissa * Nat.pow 5 (-x.exponent).toNat) x.exponent

/-- The fewest digits that read back, and the power of ten of the first. -/
def shortest (x : Binary64) : List Char × Int :=
  let places := (List.range 17).map fun (more : Nat) => x.leading - more
  match places.findSome? fun place => (x.onGrid? place).map (digitsOf · place) with
  | some found => found
  | none => x.exact

end Binary64

end PathQuery.Decimal
