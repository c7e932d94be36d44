/-
How floating-point numbers are written.

* `Double.text`: the shortest digits that read back, positional from `10 ^ -4`
  up to `10 ^ 16` and with an exponent of at least two digits outside, where a
  whole number keeps a `.0`;
* `Double.withPlaces`, `Double.withExponent`, `Double.general`: a given number of
  digits after the point, after the leading digit, or in all.
-/
import QueryOrder.Decimal.Shortest

namespace QueryOrder

namespace Decimal

/-- An exponent of ten: its sign and at least two digits. -/
def exponentText (exponent : Int) : List Char :=
  let digits := Nat.toDigits 10 exponent.natAbs
  'e' :: (if exponent < 0 then '-' else '+') ::
    (List.replicate (2 - digits.length) '0' ++ digits)

/-- Digits after the point, without the point when there are none and it is not
asked for. -/
def withPoint (keepPoint : Bool) (whole decimals : List Char) : List Char :=
  if decimals.isEmpty && !keepPoint then whole else whole ++ '.' :: decimals

/-- Digits in positional form, their point where the number has it. -/
def positional (keepPoint : Bool) (d : Digits) : List Char :=
  if d.point ≤ 0 then
    withPoint keepPoint ['0'] (List.replicate (-d.point).toNat '0' ++ d.digits)
  else
    let count := d.point.toNat
    let padded := d.digits ++ List.replicate (count - d.digits.length) '0'
    withPoint keepPoint (padded.take count) (padded.drop count)

/-- Digits in exponent form: one before the point. -/
def exponential (keepPoint : Bool) (d : Digits) : List Char :=
  withPoint keepPoint (d.digits.take 1) (d.digits.drop 1) ++ exponentText (d.point - 1)

/-- The default form of a positive number: positional while the point falls
within the first sixteen digits or at most four zeros follow it. -/
def defaultForm (d : Digits) : List Char :=
  if -4 < d.point && d.point ≤ 16 then
    let written := positional false d
    if written.contains '.' then written else written ++ ['.', '0']
  else exponential false d

end Decimal

namespace Double

open Decimal

/-- A magnitude with its sign; the infinities and the absence of a number have
names of their own. -/
def signed (x : Double) (magnitude : Nat → Int → List Char) : String :=
  match x with
  | .nan => "nan"
  | .infinite negative => if negative then "-inf" else "inf"
  | .finite negative significand exponent =>
    let written := magnitude significand exponent
    String.ofList (if negative then '-' :: written else written)

/-- The default text of a number. -/
def text (x : Double) : String :=
  x.signed fun significand exponent =>
    if significand == 0 then ['0', '.', '0'] else defaultForm (shortest significand exponent)

/-- A number with a given number of digits after the point. -/
def withPlaces (keepPoint : Bool) (count : Nat) (x : Double) : String :=
  x.signed fun significand exponent =>
    let (numerator, denominator) := fraction significand exponent
    let (whole, decimals) := places count numerator denominator
    withPoint keepPoint whole decimals

/-- A number in exponent form with a given number of digits after the point. -/
def withExponent (keepPoint : Bool) (count : Nat) (x : Double) : String :=
  x.signed fun significand exponent =>
    let (numerator, denominator) := fraction significand exponent
    exponential keepPoint (significant (count + 1) numerator denominator)

/-- No number of 64 bits has more digits than these, zeros at its two ends left
out. -/
def maxSignificant : Nat := 800

/-- A number with a given number of significant digits, at least one: in
positional form unless its exponent is below `-4` or the digits end before the
point. The zeros at the end are dropped unless the point is asked for. -/
def general (keepPoint : Bool) (count : Nat) (x : Double) : String :=
  x.signed fun significand exponent =>
    let (numerator, denominator) := fraction significand exponent
    let shown := if keepPoint then count else min count maxSignificant
    let rounded := significant (max shown 1) numerator denominator
    let kept := if keepPoint then rounded else rounded.dropZeros
    let digits := if kept.digits.isEmpty then ['0'] else kept.digits
    if -4 < rounded.point && rounded.point ≤ max count 1 then
      positional keepPoint ⟨digits, rounded.point⟩
    else exponential keepPoint ⟨digits, rounded.point⟩

end Double

end QueryOrder
