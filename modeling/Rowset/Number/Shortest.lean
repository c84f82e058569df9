import Rowset.Number.Binary64

/-!
# The fewest digits that read back

Among the decimals that round to a given binary number, the ones with the fewest digits are
selected, and of those the one nearest to the number. The search is over decimal grids, from the
coarsest on: the first grid that has a point in the number's rounding interval settles the number
of digits. Everything is compared exactly, by cross-multiplying naturals.
-/

namespace Rowset

/-- The decimal `digits * 10 ^ exponent`. -/
structure DecimalNumber where
  digits : Nat
  exponent : Int
deriving DecidableEq, Repr

/-- Which of two equally near decimals is taken. -/
inductive Tie where
  | toEven
  | awayFromZero
deriving DecidableEq, Repr

namespace Binary64

/-- A decimal brought to the common measure of decimals and quarters of a binary unit. -/
def decimalMeasure (d : DecimalNumber) (scale : Int) : Nat :=
  (d.digits * Nat.pow 10 d.exponent.toNat) <<< (2 - scale).toNat

/-- So many quarters of a binary unit, brought to the same measure. -/
def quarterMeasure (quarters : Nat) (scale : Int) (exponent : Int) : Nat :=
  (quarters <<< (scale - 2).toNat) * Nat.pow 10 (-exponent).toNat

/-- Whether the gap to the next number towards zero is half the gap away from zero. -/
def isNarrowBelow (x : Binary64) : Bool := x.fractionBits == 0 && x.exponentBits > 1

/-- Whether a decimal rounds to the magnitude of `x`. The ends of the interval round to `x` exactly
when its mantissa is even. -/
def readsBack (x : Binary64) (d : DecimalNumber) : Bool :=
  let below := 4 * x.mantissa - (if x.isNarrowBelow then 1 else 2)
  let above := 4 * x.mantissa + 2
  let point := decimalMeasure d x.scale
  let lower := quarterMeasure below x.scale d.exponent
  let upper := quarterMeasure above x.scale d.exponent
  if x.mantissa % 2 = 0 then lower ≤ point && point ≤ upper else lower < point && point < upper

/-- The nearer of two decimals, each the other's neighbour on one grid. -/
def nearer (tie : Tie) (x : Binary64) (low high : DecimalNumber) : DecimalNumber :=
  let sum := decimalMeasure low x.scale + decimalMeasure high x.scale
  let twice := 2 * quarterMeasure (4 * x.mantissa) x.scale low.exponent
  if twice < sum then low
  else if sum < twice then high
  else match tie with
    | .awayFromZero => high
    | .toEven => if low.digits % 2 = 0 then low else high

/-- The best decimal on the grid of the multiples of `10 ^ exponent`, if one reads back. -/
def onGrid? (tie : Tie) (x : Binary64) (exponent : Int) : Option DecimalNumber :=
  let floor :=
    quarterMeasure (4 * x.mantissa) x.scale exponent / decimalMeasure ⟨1, exponent⟩ x.scale
  let low : DecimalNumber := ⟨floor, exponent⟩
  let high : DecimalNumber := ⟨floor + 1, exponent⟩
  match x.readsBack low, x.readsBack high with
  | true, true => some (nearer tie x low high)
  | true, false => some low
  | false, true => some high
  | false, false => none

/-- The exponent of a grid at least as coarse as the magnitude of `x`. -/
def coarsest (x : Binary64) : Int := (Nat.log2 x.mantissa + 1 + x.scale) * 30103 / 100000 + 1

/-- The exact value of `x`, as a decimal. -/
def exactDecimal (x : Binary64) : DecimalNumber :=
  ⟨(x.mantissa <<< x.scale.toNat) * Nat.pow 5 (-x.scale).toNat, min x.scale 0⟩

/-- The shortest decimal that rounds to the magnitude of a finite `x`. -/
def shortest (tie : Tie) (x : Binary64) : DecimalNumber :=
  if x.isZero then ⟨0, 0⟩
  else
    ((List.range 20).findSome? fun (step : Nat) => onGrid? tie x (x.coarsest - step)).getD
      x.exactDecimal

end Binary64

end Rowset
