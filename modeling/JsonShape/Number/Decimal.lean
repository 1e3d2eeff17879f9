/-
This file finds the shortest decimal that reads back as a given floating-point
number, and lays a decimal out as text. A decimal reads back if it lies in the
interval of values that round to the number. The grids of multiples of a power of
ten are tried from coarse to fine; on each only the two neighbours of the number
can be nearest, so the first grid with a neighbour in the interval gives the fewest
digits, and of two hits the nearer one is taken.
-/

import JsonShape.Number.Binary64

namespace JsonShape

/-- A natural number of digits, times a power of ten. -/
structure Decimal where
  digits : Nat
  exponent : Int
deriving DecidableEq, Repr

/-- Which of two equally near decimals is taken: the one with an even last digit, or the
one farther from zero. -/
inductive Tie where
  | even
  | up
deriving DecidableEq

/-! ### The interval of a number -/

/-- The values that round to one magnitude, in quarters of a unit: a lower end, the
magnitude itself and an upper end. The ends belong to it if `closed`. -/
structure RoundingInterval where
  low : Nat
  middle : Nat
  high : Nat
  closed : Bool

/-- The half gaps to the two neighbours; below a power of two the gap is half as wide. -/
def roundingInterval (units : Nat) : RoundingInterval :=
  let shift := units.log2 - 52
  let significand := units >>> shift
  let below := if significand = 1 <<< 52 ∧ 0 < shift then 1 <<< shift else 1 <<< (shift + 1)
  { low := 4 * units - below
    middle := 4 * units
    high := 4 * units + 1 <<< (shift + 1)
    closed := significand % 2 == 0 }

/-! ### The grids -/

namespace RoundingInterval

/-- The multiple of `10 ^ exponent` that is nearest to the middle, if it lies in the interval. -/
def onGrid? (interval : RoundingInterval) (tie : Tie) (exponent : Int) : Option Nat :=
  let scale := Nat.pow 10 (-exponent).toNat
  let step := 4 * unitsOfOne * Nat.pow 10 exponent.toNat
  let low := interval.low * scale
  let middle := interval.middle * scale
  let high := interval.high * scale
  let inside (multiple : Nat) : Bool :=
    if interval.closed then low ≤ multiple * step && multiple * step ≤ high
    else low < multiple * step && multiple * step < high
  let lower := middle / step
  let upper := lower + 1
  match inside lower, inside upper with
  | false, false => none
  | true, false => some lower
  | false, true => some upper
  | true, true =>
      let down := middle - lower * step
      let up := upper * step - middle
      if down < up then some lower
      else if up < down then some upper
      else match tie with
        | .even => if lower % 2 = 0 then some lower else some upper
        | .up => some upper

/-- The first hit on the grids from `10 ^ exponent` downwards. -/
def firstHit (interval : RoundingInterval) (tie : Tie) : Nat → Int → Decimal
  | 0, exponent => ⟨0, exponent⟩
  | grids + 1, exponent =>
      match interval.onGrid? tie exponent with
      | some digits => ⟨digits, exponent⟩
      | none => firstHit interval tie grids (exponent - 1)

end RoundingInterval

/-- The shortest decimal that reads back as the magnitude of the number. The first grid is
coarser than the number, since 30103/100000 is the logarithm of two to within one part in ten
million; a coarser grid holds only zero below the number, so no digit is spent on it, and
seventeen digits always suffice. -/
def Binary64.shortest (number : Binary64) (tie : Tie) : Decimal :=
  if number.units = 0 then ⟨0, 0⟩
  else
    let coarse := ((number.units.log2 : Int) - 1073) * 30103 / 100000 + 2
    (roundingInterval number.units).firstHit tie 22 coarse

/-! ### Layout -/

/-- The decimal digits of a natural number. -/
def digitsOf (value : Nat) : List Char := Nat.toDigits 10 value

namespace Decimal

/-- The power of ten of the first digit, plus one: where the point stands in the digits. -/
def point (decimal : Decimal) : Int := (digitsOf decimal.digits).length + decimal.exponent

/-- Digits with a point among them, without exponent. A whole number gets `whole` behind it. -/
def positional (decimal : Decimal) (whole : List Char) : List Char :=
  let digits := digitsOf decimal.digits
  if decimal.digits = 0 then '0' :: whole
  else if 0 ≤ decimal.exponent then
    digits ++ List.replicate decimal.exponent.toNat '0' ++ whole
  else if 0 < decimal.point then
    digits.take decimal.point.toNat ++ '.' :: digits.drop decimal.point.toNat
  else
    '0' :: '.' :: List.replicate (-decimal.point).toNat '0' ++ digits

/-- One digit, the point and the other digits if there are any, and the signed exponent. -/
def scientific (decimal : Decimal) : List Char :=
  let power := decimal.point - 1
  let sign := if power < 0 then '-' else '+'
  let tail := 'e' :: sign :: digitsOf power.natAbs
  match digitsOf decimal.digits with
  | [] => tail
  | [first] => first :: tail
  | first :: others => first :: '.' :: others ++ tail

end Decimal

end JsonShape
