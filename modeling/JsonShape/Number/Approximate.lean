/-
This file turns a significand and a power of ten into a floating-point number by at
most a handful of rounded operations: the significand is rounded, then multiplied
with or divided by the number nearest to the power of ten, in steps of 10³⁰⁸ where
the power is out of range. The result may differ from the correctly rounded one in
the last place; it is the value every reader of numbers in this library gives.
-/

import JsonShape.Number.Binary64

namespace JsonShape

namespace Binary64

/-- The greatest power of ten that is a finite number. -/
def greatestPower : Nat := 308

/-- Divides by 10³⁰⁸ so many times; zero stays what it is. -/
def overGreatestPower : Nat → Binary64 → Option Binary64
  | 0, number => some number
  | times + 1, number =>
      if number.isZero then some number
      else match number.overPowerOfTen? greatestPower with
        | some smaller => overGreatestPower times smaller
        | none => none

/-- The value of `significand · 10 ^ exponent`, if it is finite. -/
def ofDecimal? (significand : Nat) (exponent : Int) : Option Binary64 :=
  match ofInt? significand with
  | none => none
  | some number =>
      if 0 ≤ exponent then
        if exponent ≤ greatestPower then number.timesPowerOfTen? exponent.toNat
        else if number.isZero then some number
        else none
      else
        let power := (-exponent).toNat
        let rounds := (power - 1) / greatestPower
        match overGreatestPower rounds number with
        | none => none
        | some scaled => scaled.overPowerOfTen? (power - rounds * greatestPower)

end Binary64

end JsonShape
