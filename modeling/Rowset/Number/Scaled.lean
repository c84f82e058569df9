import Rowset.Number.Binary64
import Rowset.Text.Decimal

/-!
# Reading decimals by scaling

A decimal numeral is read in two steps, each of which rounds once: as many leading digits as fit 64
bits are taken as an integer, the rest only count as places, and the integer is then multiplied or
divided by a power of ten. For short numerals the steps are exact and the result is the nearest
number; for long ones it may be a neighbour of it. A number out of range is refused.
-/

namespace Rowset

open Rowset.Text

namespace Binary64

/-- The number nearest to `10 ^ k`. -/
def powerOfTen (k : Nat) : Binary64 := ofNat (Nat.pow 10 k)

/-- Divides by `10 ^ k`, in steps of at most `10 ^ 308`. -/
def divPowerOfTen (x : Binary64) (k : Nat) : Binary64 :=
  if k ≤ 308 then x.div (powerOfTen k)
  else if x.isZero then x
  else divPowerOfTen (x.div (powerOfTen 308)) (k - 308)
termination_by k

/-- Multiplies by `10 ^ exponent`; none when the result is out of range. -/
def scaleByTen? (x : Binary64) (exponent : Int) : Option Binary64 :=
  match exponent with
  | .negSucc k => some (divPowerOfTen x (k + 1))
  | .ofNat k =>
    if k ≤ 308 then
      let y := x.mul (powerOfTen k)
      if y.isFinite then some y else none
    else if x.isZero then some x else none

end Binary64

/-- Appends digits to an integer for as long as it fits 64 bits; also gives the digits left. -/
def absorbDigits : Nat → List Char → Nat × List Char
  | n, [] => (n, [])
  | n, c :: cs =>
    let next := 10 * n + (c.toNat - '0'.toNat)
    if next < 0x10000000000000000 then absorbDigits next cs else (n, c :: cs)

/-- The number spelled by whole digits, fraction digits and an exponent. -/
def Binary64.ofNumeral? (negative : Bool) (whole fraction : List Char) (exponent : Int) :
    Option Binary64 :=
  let (n, wholeLeft) := absorbDigits 0 whole
  let (n, fractionLeft) := absorbDigits n fraction
  let places : Int := (wholeLeft.length : Int) - (fraction.length - fractionLeft.length : Nat)
  let magnitude := (Binary64.ofNat n).scaleByTen? (places + exponent)
  magnitude.map fun x => if negative then x.neg else x

end Rowset
