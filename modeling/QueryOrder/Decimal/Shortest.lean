/-
Decimal digits of binary floating-point numbers.

* `roundDiv`: a quotient rounded to the nearest integer, a tie to the even one;
* `shortest`: the fewest decimal digits that still lie nearer to a number than
  to its neighbours, and of those the nearest;
* `nearestDouble?`: the number of 64 bits nearest to an integer;
* `significant`, `places`: a number rounded to so many significant digits, or to
  so many digits after the point.
-/
import QueryOrder.Decimal.Double

namespace QueryOrder.Decimal

/-! ### Digits and their point -/

/-- The number `0.d₁d₂… · 10 ^ point`, where `d₁d₂…` are the digits. -/
structure Digits where
  digits : List Char
  point : Int
deriving DecidableEq, Repr

/-- The digits of `coefficient · 10 ^ exponent`. -/
def Digits.ofCoefficient (coefficient : Nat) (exponent : Int) : Digits :=
  let digits := Nat.toDigits 10 coefficient
  ⟨digits, digits.length + exponent⟩

/-- Zeros at the end of the digits do not count. -/
def Digits.dropZeros (d : Digits) : Digits :=
  ⟨(d.digits.reverse.dropWhile (· == '0')).reverse, d.point⟩

/-! ### Rounding -/

/-- The quotient rounded to the nearest integer, a tie to the even one. -/
def roundDiv (numerator denominator : Nat) : Nat :=
  let quotient := numerator / denominator
  let twice := 2 * (numerator % denominator)
  if twice < denominator || (twice == denominator && quotient % 2 == 0) then quotient
  else quotient + 1

/-- The number of 64 bits nearest to an integer, unless the integer is beyond all
of them. -/
def nearestDouble? (n : Int) : Option Double :=
  let excess := n.natAbs.log2 - 52
  let significand := roundDiv n.natAbs (Nat.pow 2 excess)
  if significand * Nat.pow 2 excess < Nat.pow 2 1024 then
    some (.finite (n < 0) significand excess)
  else none

/-- A fraction counted in steps of `10 ^ exponent`. -/
def inSteps (numerator denominator : Nat) (exponent : Int) : Nat × Nat :=
  if 0 ≤ exponent then (numerator, denominator * Nat.pow 10 exponent.toNat)
  else (numerator * Nat.pow 10 (-exponent).toNat, denominator)

/-- The power of ten just above a positive fraction: the `k` with
`10 ^ (k - 1) ≤ numerator / denominator < 10 ^ k`. No number of 64 bits is below
`10 ^ -400`. -/
def magnitude (numerator denominator : Nat) : Int :=
  if denominator ≤ numerator then (Nat.toDigits 10 (numerator / denominator)).length
  else 1 - ((List.range 400).find? fun j => denominator ≤ numerator * Nat.pow 10 j).getD 0

/-! ### The shortest digits -/

/-- The better of the two grid points around a number on the grid of step
`10 ^ exponent`, if one of them reads back as the number. Everything is counted
in quarters of the last place: `low` and `high` are the ends of the interval of
reals that round to the number, and they belong to it exactly when the
significand is even. -/
def gridPoint? (closed : Bool) (low value high denominator : Nat) (exponent : Int) : Option Nat :=
  let (scaledLow, step) := inSteps low denominator exponent
  let scaledValue := (inSteps value denominator exponent).1
  let scaledHigh := (inSteps high denominator exponent).1
  let below := scaledValue / step
  let readsBack (point : Nat) : Bool :=
    if closed then scaledLow ≤ point * step && point * step ≤ scaledHigh
    else scaledLow < point * step && point * step < scaledHigh
  match readsBack below, readsBack (below + 1) with
  | true, true => some (roundDiv scaledValue step)
  | true, false => some below
  | false, true => some (below + 1)
  | false, false => none

/-- The fewest digits that read back as the positive number
`significand · 2 ^ exponent`, and of those the nearest to it. Seventeen digits
always read back. -/
def shortest (significand : Nat) (exponent : Int) : Digits :=
  let lowGap := if significand == Nat.pow 2 52 && -1074 < exponent then 1 else 2
  let (value, unit) := Double.fraction (4 * significand) exponent
  let low := (Double.fraction (4 * significand - lowGap) exponent).1
  let high := (Double.fraction (4 * significand + 2) exponent).1
  let denominator := 4 * unit
  let top := magnitude value denominator
  let found := (List.range 17).findSome? fun n =>
    let step := top - (n + 1 : Nat)
    (gridPoint? (significand % 2 == 0) low value high denominator step).map (·, step)
  let (coefficient, step) := found.getD (0, 0)
  (Digits.ofCoefficient coefficient step).dropZeros

/-! ### A given number of digits -/

/-- A fraction rounded to a number of significant digits, a tie to the even
neighbour. Zero has that many zeros, the first before the point. -/
def significant (count numerator denominator : Nat) : Digits :=
  if numerator == 0 then ⟨List.replicate count '0', 1⟩
  else
    let step := magnitude numerator denominator - count
    let (scaled, unit) := inSteps numerator denominator step
    let rounded := Digits.ofCoefficient (roundDiv scaled unit) step
    ⟨rounded.digits.take count, rounded.point⟩

/-- A fraction rounded to a number of digits after the point, a tie to the even
neighbour: the digits before the point, at least one, and those after it. -/
def places (count numerator denominator : Nat) : List Char × List Char :=
  let digits := Nat.toDigits 10 (roundDiv (numerator * Nat.pow 10 count) denominator)
  let padded := List.replicate (count + 1 - digits.length) '0' ++ digits
  (padded.take (padded.length - count), padded.drop (padded.length - count))

end QueryOrder.Decimal
