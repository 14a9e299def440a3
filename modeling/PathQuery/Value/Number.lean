/-
**Numbers as words, bytes and floats.**

A whole number is a word when it is in the word's range; a double is never one, even if it has no
fraction. Every number is a float.
-/

import PathQuery.Value

namespace PathQuery.Value

open Decimal (Number Whole)

/-- The whole number within these bounds. -/
def whole? (lowest highest : Int) : Number → Option Int
  | .whole n => if lowest ≤ n.val ∧ n.val ≤ highest then some n.val else none
  | .double _ => none

/-- A signed word of this many bits. -/
def signed? (bits : Nat) (number : Number) : Option Int64 :=
  let half : Nat := Nat.pow 2 (bits - 1)
  (whole? (-half) (half - 1) number).map Int64.ofInt

/-- An unsigned word of this many bits. -/
def unsigned? (bits : Nat) (number : Number) : Option UInt64 :=
  let count : Nat := Nat.pow 2 bits
  (whole? 0 (count - 1) number).map fun n => UInt64.ofNat n.toNat

/-- A byte. -/
def byte? (number : Number) : Option UInt8 :=
  (whole? 0 255 number).map fun n => UInt8.ofNat n.toNat

/-- The double closest to a number. -/
def double : Number → Float
  | .whole n =>
    if n.val < 0 then (Int64.ofInt n.val).toFloat else (UInt64.ofNat n.val.toNat).toFloat
  | .double x => x

/-- The float of 32 bits closest to a number, as a double. -/
def single : Number → Float
  | .whole n =>
    if n.val < 0 then (Int64.ofInt n.val).toFloat32.toFloat
    else (UInt64.ofNat n.val.toNat).toFloat32.toFloat
  | .double x => x.toFloat32.toFloat

end PathQuery.Value
