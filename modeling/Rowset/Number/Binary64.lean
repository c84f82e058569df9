/-!
# Binary floating-point numbers of 64 bits

A number is its bit pattern: a sign bit, eleven exponent bits and fifty-two fraction bits. A finite
pattern stands for the exact value `mantissa * 2 ^ scale`; all arithmetic here is exact arithmetic
on naturals followed by one rounding, to the nearest pattern and to the even one on a tie.
-/

namespace Rowset

/-- A binary floating-point number, given by its bits. -/
structure Binary64 where
  bits : UInt64
deriving DecidableEq, Repr

namespace Binary64

/-! ## The parts of a pattern -/

def isNegative (x : Binary64) : Bool := 0x8000000000000000 ≤ x.bits.toNat

def exponentBits (x : Binary64) : Nat := (x.bits.toNat >>> 52) % 0x800

def fractionBits (x : Binary64) : Nat := x.bits.toNat % 0x10000000000000

/-- Neither infinite nor undefined. -/
def isFinite (x : Binary64) : Bool := x.exponentBits != 2047

def isNaN (x : Binary64) : Bool := x.exponentBits == 2047 && x.fractionBits != 0

/-- Zero, of either sign. -/
def isZero (x : Binary64) : Bool := x.exponentBits == 0 && x.fractionBits == 0

/-- The integer that the scale multiplies; without the leading bit for the least numbers. -/
def mantissa (x : Binary64) : Nat :=
  if x.exponentBits = 0 then x.fractionBits else 0x10000000000000 + x.fractionBits

/-- The power of two that multiplies the mantissa. -/
def scale (x : Binary64) : Int :=
  if x.exponentBits = 0 then -1074 else (x.exponentBits : Int) - 1075

/-- Equality of numbers: the two zeros are one number, and an undefined result equals nothing. -/
def numEq (x y : Binary64) : Bool :=
  !x.isNaN && !y.isNaN && (x.bits == y.bits || (x.isZero && y.isZero))

theorem numEq_self {x : Binary64} (h : x.isNaN = false) : x.numEq x = true := by
  simp [numEq, h]

/-! ## Rounding -/

/-- The pattern of a magnitude under a sign. -/
def ofMagnitude (negative : Bool) (pattern : Nat) : Binary64 :=
  ⟨UInt64.ofNat (if negative then 0x8000000000000000 + pattern else pattern)⟩

/-- The pattern of infinity. -/
def infinityPattern : Nat := 2047 <<< 52

def zero (negative : Bool) : Binary64 := ofMagnitude negative 0

/-- The quotient rounded to the nearest natural number, to the even one on a tie. -/
def roundDiv (num den : Nat) : Nat :=
  let quotient := num / den
  let twice := 2 * (num % den)
  if twice < den then quotient
  else if den < twice then quotient + 1
  else if quotient % 2 = 0 then quotient else quotient + 1

/-- The greatest exponent `e` with `2 ^ e ≤ num / den`, for a positive quotient. -/
def floorLog2 (num den : Nat) : Int :=
  let guess : Int := (Nat.log2 num : Int) - Nat.log2 den
  if den <<< guess.toNat ≤ num <<< (-guess).toNat then guess else guess - 1

/-- The number nearest to `num / den`, infinite when it is out of range. -/
def ofRatio (negative : Bool) (num den : Nat) : Binary64 :=
  if num = 0 then zero negative
  else
    let scale := max (floorLog2 num den - 52) (-1074)
    let mantissa := roundDiv (num <<< (-scale).toNat) (den <<< scale.toNat)
    ofMagnitude negative (min ((scale + 1074).toNat <<< 52 + mantissa) infinityPattern)

def ofNat (n : Nat) : Binary64 := ofRatio false n 1

def ofInt (n : Int) : Binary64 := ofRatio (n < 0) n.natAbs 1

def neg (x : Binary64) : Binary64 := ⟨x.bits ^^^ 0x8000000000000000⟩

/-- The product of two finite numbers. -/
def mul (x y : Binary64) : Binary64 :=
  let scale := x.scale + y.scale
  ofRatio (x.isNegative != y.isNegative) ((x.mantissa * y.mantissa) <<< scale.toNat)
    (1 <<< (-scale).toNat)

/-- The quotient of two finite numbers, of which the second is not zero. -/
def div (x y : Binary64) : Binary64 :=
  let scale := x.scale - y.scale
  ofRatio (x.isNegative != y.isNegative) (x.mantissa <<< scale.toNat)
    (y.mantissa <<< (-scale).toNat)

/-! ## The 32-bit format -/

/-- The number that a 32-bit pattern stands for; every such number has a 64-bit pattern. -/
def ofBits32 (bits : UInt32) : Binary64 :=
  let negative := decide (0x80000000 ≤ bits.toNat)
  let exponent := (bits.toNat >>> 23) % 0x100
  let fraction := bits.toNat % 0x800000
  if exponent = 255 then ofMagnitude negative (infinityPattern + fraction <<< 29)
  else if exponent = 0 then ofRatio negative fraction (1 <<< 149)
  else ofRatio negative ((0x800000 + fraction) <<< exponent) (1 <<< 150)

end Binary64

end Rowset
