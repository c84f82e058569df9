import Rowset.Text.Decimal

/-!
# Signed numerals

A numeral is an optional sign followed by digits, and its value has to fit a signed 64-bit word.
The digits are taken from left to right and the first problem met is the one reported, so a numeral
that is already too large fails as such, whatever comes after.
-/

namespace Rowset.Text.Numeral

/-- Why a text is not a signed 64-bit numeral. -/
inductive Failure where
  /-- There is nothing to read. -/
  | empty
  /-- A character that is no digit was met, or there were no digits at all. -/
  | notADigit
  /-- The digits read so far exceed the greatest signed 64-bit number. -/
  | tooLarge
  /-- The digits read so far fall below the least signed 64-bit number. -/
  | tooSmall
deriving DecidableEq, Repr

/-- Extends a number by one more digit, away from zero. -/
def extend (negative : Bool) (n : Int) (c : Char) : Except Failure Int :=
  if c.isDigit then
    if negative then
      let next := 10 * n - (c.toNat - '0'.toNat : Nat)
      if -0x8000000000000000 ≤ next then .ok next else .error .tooSmall
    else
      let next := 10 * n + (c.toNat - '0'.toNat : Nat)
      if next ≤ 0x7fffffffffffffff then .ok next else .error .tooLarge
  else .error .notADigit

/-- Reads digits onto the number read so far. -/
def digits (negative : Bool) : Int → List Char → Except Failure Int
  | n, [] => .ok n
  | n, c :: cs =>
    match extend negative n c with
    | .ok next => digits negative next cs
    | .error e => .error e

/-- Reads a signed 64-bit numeral; no character may be left over. -/
def read : List Char → Except Failure Int
  | [] => .error .empty
  | ['+'] => .error .notADigit
  | ['-'] => .error .notADigit
  | '+' :: cs => digits false 0 cs
  | '-' :: cs => digits true 0 cs
  | cs => digits false 0 cs

end Rowset.Text.Numeral
