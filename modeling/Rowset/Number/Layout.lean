import Rowset.Number.Shortest
import Rowset.Text.Decimal

/-!
# How a selected decimal is laid out

Which digits a number has is settled by the selection of the shortest decimal. What is left is a
matter of style: up to which exponents the digits are written around a decimal point, whether a
whole number keeps a `.0`, which of two equally near decimals is taken, and how the numbers that
have no digits are spelled.
-/

namespace Rowset

open Rowset.Text

/-- The decisions that make up a printed form of floating-point numbers. -/
structure FloatStyle where
  /-- Which of two equally near shortest decimals is printed. -/
  tie : Tie
  /-- The exponents of the leading digit for which digits are placed around a decimal point; for
  the others the form with an exponent is used. -/
  positional : Int → Bool
  /-- Whether a whole number shows `.0`. -/
  pointZero : Bool
  /-- The words for an undefined result and for infinity. -/
  nan : String
  infinity : String

namespace FloatStyle

/-- Digits placed around a decimal point. -/
def positionalText (style : FloatStyle) (digits : List Char) (exponent : Int) : List Char :=
  if 0 ≤ exponent then
    digits ++ List.replicate exponent.toNat '0' ++ (if style.pointZero then ['.', '0'] else [])
  else
    let places := (-exponent).toNat
    if places < digits.length then
      digits.take (digits.length - places) ++ '.' :: digits.drop (digits.length - places)
    else '0' :: '.' :: List.replicate (places - digits.length) '0' ++ digits

/-- One leading digit, the others behind a point, and the exponent with its sign. -/
def scientificText (digits : List Char) (leading : Int) : List Char :=
  let point := match digits.drop 1 with
    | [] => []
    | rest => '.' :: rest
  let sign := if leading < 0 then '-' else '+'
  digits.take 1 ++ point ++ 'e' :: sign :: Decimal.ofNat leading.natAbs

/-- Lays out a decimal. -/
def decimalText (style : FloatStyle) (d : DecimalNumber) : List Char :=
  let digits := Decimal.ofNat d.digits
  let leading := d.exponent + digits.length - 1
  if style.positional leading then positionalText style digits d.exponent
  else scientificText digits leading

/-- Prints a number. -/
def print (style : FloatStyle) (x : Binary64) : List Char :=
  if x.isNaN then style.nan.toList
  else
    let sign := if x.isNegative then ['-'] else []
    let magnitude :=
      if x.isFinite then style.decimalText (x.shortest style.tie) else style.infinity.toList
    sign ++ magnitude

end FloatStyle

end Rowset
