/-
This file holds the finite binary floating-point numbers of 64 bits. Each of them
is a whole multiple of 2⁻¹⁰⁷⁴, so a number is kept as a sign and a natural number
of such units, and every comparison is a comparison of integers. Arithmetic is
exact division of natural numbers followed by one rounding to the nearest
representable number, ties to the even significand (`roundUnits`); what leaves the
finite range has no result.
-/

namespace JsonShape

/-! ### Rounding -/

/-- The representable number of units nearest to `numerator / denominator`; a tie goes to
the even significand. -/
def roundUnits (numerator denominator : Nat) : Nat :=
  let shift := (numerator / denominator).log2 - 52
  let step := denominator <<< shift
  let lower := numerator / step
  let remainder := numerator % step
  let significand :=
    if 2 * remainder < step then lower
    else if step < 2 * remainder then lower + 1
    else lower + lower % 2
  significand <<< shift

/-- A count of units with at most 53 significant bits. -/
def Representable (units : Nat) : Prop :=
  ∃ significand shift, significand < 1 <<< 53 ∧ units = significand <<< shift

theorem truncated_lt (numerator denominator : Nat) :
    numerator / (denominator <<< ((numerator / denominator).log2 - 52)) < 1 <<< 53 := by
  rw [Nat.shiftLeft_eq, Nat.shiftLeft_eq, Nat.one_mul, ← Nat.div_div_eq_div_mul]
  apply Nat.div_lt_of_lt_mul
  have bound := Nat.lt_log2_self (n := numerator / denominator)
  refine Nat.lt_of_lt_of_le bound ?_
  rw [← Nat.pow_add]
  exact Nat.pow_le_pow_right (by decide) (by omega)

theorem representable_of_le (significand shift : Nat) (bound : significand ≤ 1 <<< 53) :
    Representable (significand <<< shift) := by
  by_cases small : significand < 1 <<< 53
  · exact ⟨significand, shift, small, rfl⟩
  · have full : significand = 1 <<< 53 := Nat.le_antisymm bound (Nat.le_of_not_lt small)
    refine ⟨1 <<< 52, shift + 1, by decide, ?_⟩
    rw [full, ← Nat.shiftLeft_add, ← Nat.shiftLeft_add]
    congr 1
    omega

/-- Rounding ends on a representable number. -/
theorem representable_roundUnits (numerator denominator : Nat) :
    Representable (roundUnits numerator denominator) := by
  have truncated := truncated_lt numerator denominator
  unfold roundUnits
  apply representable_of_le
  split
  · omega
  · split
    · omega
    · omega

/-! ### The numbers -/

/-- How many units make one. -/
def unitsOfOne : Nat := 1 <<< 1074

/-- Where the finite range ends, in units: at 2¹⁰²⁴. -/
def unitsOfInfinity : Nat := 1 <<< 2098

/-- A finite binary floating-point number: a sign, and a magnitude in units of 2⁻¹⁰⁷⁴. -/
structure Binary64 where
  negative : Bool
  units : Nat
  representable : Representable units
  bounded : units < unitsOfInfinity
deriving DecidableEq

namespace Binary64

/-- Zero with a sign. -/
def zero (negative : Bool) : Binary64 where
  negative := negative
  units := 0
  representable := ⟨0, 0, by decide, rfl⟩
  bounded := by decide

/-- The number nearest to `numerator / denominator` units, if it is finite. -/
def ofUnits? (negative : Bool) (numerator denominator : Nat) : Option Binary64 :=
  if bounded : roundUnits numerator denominator < unitsOfInfinity then
    some ⟨negative, roundUnits numerator denominator, representable_roundUnits _ _, bounded⟩
  else none

/-- The number nearest to an integer. -/
def ofInt? (value : Int) : Option Binary64 := ofUnits? (value < 0) (value.natAbs * unitsOfOne) 1

/-- The same magnitude under another sign. -/
def withSign (number : Binary64) (negative : Bool) : Binary64 := { number with negative }

/-- The signed number of units: the value, times 2¹⁰⁷⁴. -/
def signedUnits (number : Binary64) : Int :=
  if number.negative then -number.units else number.units

/-- Order by value; the two zeros are level. -/
def le (first second : Binary64) : Bool := decide (first.signedUnits ≤ second.signedUnits)

/-- Equality by value; the two zeros are equal. -/
def equal (first second : Binary64) : Bool := decide (first.signedUnits = second.signedUnits)

/-- Whether the number is one of the two zeros. -/
def isZero (number : Binary64) : Bool := decide (number.units = 0)

/-! ### Scaling by powers of ten -/

/-- The number of units of the number nearest to `10 ^ power`. -/
def powerOfTen (power : Nat) : Nat := roundUnits (Nat.pow 10 power * unitsOfOne) 1

/-- The rounded product with the number nearest to `10 ^ power`. -/
def timesPowerOfTen? (number : Binary64) (power : Nat) : Option Binary64 :=
  ofUnits? number.negative (number.units * powerOfTen power) unitsOfOne

/-- The rounded quotient by the number nearest to `10 ^ power`. -/
def overPowerOfTen? (number : Binary64) (power : Nat) : Option Binary64 :=
  ofUnits? number.negative (number.units * unitsOfOne) (powerOfTen power)

end Binary64

end JsonShape
