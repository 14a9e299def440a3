/-
**How a double is laid out as text.**

The digits come from the shortest decimal that identifies the double; the layout decides where the
point goes and when an exponent is written.
-/

import PathQuery.Decimal.Shortest

namespace PathQuery.Decimal

/-- The first digits' powers of ten that are written positionally: from `plainFrom` on and below
`plainBelow`. -/
structure Layout where
  plainFrom : Int
  plainBelow : Int
  deriving DecidableEq, Repr

namespace Layout

/-- An exponent with its sign, without padding. -/
def exponent (power : Int) : List Char :=
  'e' :: (if 0 ≤ power then '+' else '-') :: Nat.toDigits 10 power.natAbs

/-- Digits with a point before, inside or behind them, always with a digit on either side. -/
def positional (digits : List Char) (power : Int) : List Char :=
  if power < 0 then
    '0' :: '.' :: (List.replicate (-power - 1).toNat '0' ++ digits)
  else
    let whole := power.toNat + 1
    let fraction := digits.drop whole
    digits.take whole ++ List.replicate (whole - digits.length) '0' ++
      '.' :: (if fraction.isEmpty then ['0'] else fraction)

/-- Digits with a point behind the first one, if more follow, and an exponent. -/
def scientific (digits : List Char) (power : Int) : List Char :=
  digits.take 1 ++ (if digits.length ≤ 1 then [] else '.' :: digits.drop 1) ++ exponent power

/-- The text of a double's size. -/
def magnitude (layout : Layout) (bits : UInt64) : List Char :=
  let x := Binary64.ofBits bits
  if x.mantissa = 0 then ['0', '.', '0']
  else
    let (digits, power) := x.shortest
    if layout.plainFrom ≤ power && power < layout.plainBelow then positional digits power
    else scientific digits power

/-- The text of a finite double. Zero keeps its sign. -/
def write (layout : Layout) (x : Float) : List Char :=
  let bits := x.toBits
  (if bits.toNat < Nat.pow 2 63 then [] else ['-']) ++ layout.magnitude bits

end Layout

end PathQuery.Decimal
