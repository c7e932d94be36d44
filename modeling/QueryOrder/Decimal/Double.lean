/-
Binary floating-point numbers of 64 bits.

* `Double`: a number `± significand · 2 ^ exponent`, an infinity, or no number;
* `Double.ofBits`: the number that a word of 64 bits stands for;
* `Double.truncate?`: its integer part, toward zero.
-/

namespace QueryOrder

/-- A floating-point number: its significand has at most 53 bits, and its
exponent is at least `-1074`. -/
inductive Double where
  | nan
  | infinite (negative : Bool)
  | finite (negative : Bool) (significand : Nat) (exponent : Int)
deriving DecidableEq, Repr

namespace Double

/-- The number that a word stands for: one sign bit, eleven bits of exponent and
52 of significand, whose leading one is left out except in the least exponent. -/
def ofBits (word : UInt64) : Double :=
  let negative : Bool := word.toNat / Nat.pow 2 63 == 1
  let power : Nat := word.toNat / Nat.pow 2 52 % Nat.pow 2 11
  let fraction : Nat := word.toNat % Nat.pow 2 52
  if power == 0x7FF then
    if fraction == 0 then .infinite negative else .nan
  else if power == 0 then .finite negative fraction (-1074)
  else .finite negative (Nat.pow 2 52 + fraction) ((power : Int) - 1075)

/-- Only the two zeros are zero. -/
def isZero : Double → Bool
  | .finite _ significand _ => significand == 0
  | _ => false

/-- The magnitude as a fraction of two natural numbers. -/
def fraction (significand : Nat) (exponent : Int) : Nat × Nat :=
  if 0 ≤ exponent then (significand * Nat.pow 2 exponent.toNat, 1)
  else (significand, Nat.pow 2 (-exponent).toNat)

/-- The integer part of a finite number, toward zero. -/
def truncate? : Double → Option Int
  | .finite negative significand exponent =>
    let (numerator, denominator) := fraction significand exponent
    let magnitude : Int := (numerator / denominator : Nat)
    some (if negative then -magnitude else magnitude)
  | _ => none

/-- The integer that a number is equal to, if it is equal to one. -/
def toInt? (x : Double) : Option Int :=
  match x with
  | .finite _ significand exponent =>
    let (numerator, denominator) := fraction significand exponent
    if numerator % denominator == 0 then x.truncate? else none
  | _ => none

end Double

end QueryOrder
