/-
This file shows that rounding gives the nearest number. The multiples of the step to
which a quotient is rounded are the representable numbers of units around it, and what
is representable off this grid lies below all of the quotient's binade; so no number of
at most 53 significant bits is nearer than the one that rounding ends on
(`roundUnits_nearest`).

What a bound says of an integer after rounding follows from this alone. A rounded integer
is on the same side of every number as the integer itself, unless it falls on that number
(`le_rounded_iff`, `rounded_le_iff`), and an integer of at most 53 bits is not changed at
all (`value_of_ofInt?`).
-/

import JsonShape.Json.Basic
import Mathlib.Algebra.Order.Field.Rat
import Mathlib.Algebra.Order.Field.Basic
import Mathlib.Data.Int.CharZero

namespace JsonShape

/-! ### Rounding a quotient -/

/-- A representable number of units is a multiple of the power of two, or it lies below the numbers
of units that need 53 bits at this power. -/
theorem Representable.multiple_or_lt {units : Nat} (representable : Representable units)
    (shift : Nat) : (∃ count, units = count * 2 ^ shift) ∨
      0 < shift ∧ units < 2 ^ 52 * 2 ^ shift := by
  obtain ⟨significand, place, bounded, rfl⟩ := representable
  rw [Nat.shiftLeft_eq, Nat.one_mul] at bounded
  rw [Nat.shiftLeft_eq]
  rcases Nat.lt_or_ge place shift with below | above
  · right
    refine ⟨by omega, ?_⟩
    calc significand * 2 ^ place
        < 2 ^ 53 * 2 ^ place := Nat.mul_lt_mul_of_pos_right bounded (Nat.two_pow_pos _)
      _ = 2 ^ (53 + place) := (Nat.pow_add ..).symm
      _ ≤ 2 ^ (52 + shift) := Nat.pow_le_pow_right (by decide) (by omega)
      _ = 2 ^ 52 * 2 ^ shift := Nat.pow_add ..
  · left
    refine ⟨significand * 2 ^ (place - shift), ?_⟩
    rw [Nat.mul_assoc, ← Nat.pow_add, Nat.sub_add_cancel above]

/-- Rounding ends on one of the two multiples of the step around the numerator, and on the nearer
one. Unless the step is the denominator itself, the numerator is at least 2⁵² steps. -/
theorem exists_roundUnits (numerator denominator : Nat) :
    ∃ shift significand, roundUnits numerator denominator = significand * 2 ^ shift ∧
      (0 < shift → 2 ^ 52 * (denominator * 2 ^ shift) ≤ numerator) ∧
      (significand = numerator / (denominator * 2 ^ shift) ∧
          2 * (numerator % (denominator * 2 ^ shift)) ≤ denominator * 2 ^ shift ∨
        significand = numerator / (denominator * 2 ^ shift) + 1 ∧
          denominator * 2 ^ shift ≤ 2 * (numerator % (denominator * 2 ^ shift))) := by
  refine ⟨(numerator / denominator).log2 - 52, _, by rw [roundUnits, Nat.shiftLeft_eq], ?_, ?_⟩
  · intro positive
    have large : numerator / denominator ≠ 0 := fun zero => by simp [zero] at positive
    have binade : 2 ^ (numerator / denominator).log2 ≤ numerator / denominator :=
      Nat.log2_self_le large
    calc 2 ^ 52 * (denominator * 2 ^ ((numerator / denominator).log2 - 52))
        = 2 ^ (52 + ((numerator / denominator).log2 - 52)) * denominator := by
          rw [Nat.pow_add, Nat.mul_assoc, Nat.mul_comm denominator]
      _ = 2 ^ (numerator / denominator).log2 * denominator := by
          rw [Nat.add_sub_cancel' (by omega)]
      _ ≤ numerator / denominator * denominator := Nat.mul_le_mul_right _ binade
      _ ≤ numerator := Nat.div_mul_le_self _ _
  · simp only [Nat.shiftLeft_eq]
    split
    · exact .inl ⟨rfl, by omega⟩
    · split
      · exact .inr ⟨rfl, by omega⟩
      · rcases Nat.mod_two_eq_zero_or_one
          (numerator / (denominator * 2 ^ ((numerator / denominator).log2 - 52))) with even | odd
        · exact .inl ⟨by rw [even, Nat.add_zero], by omega⟩
        · exact .inr ⟨by rw [odd], by omega⟩

/-- Of the multiples of a step, the one that was rounded to is the nearest. -/
theorem natAbs_sub_le_of_rounded {numerator step significand : Nat} (positive : 0 < step)
    (rounded : significand = numerator / step ∧ 2 * (numerator % step) ≤ step ∨
      significand = numerator / step + 1 ∧ step ≤ 2 * (numerator % step)) (count : Nat) :
    ((significand * step : Nat) - numerator : Int).natAbs ≤
      ((count * step : Nat) - numerator : Int).natAbs := by
  have split : numerator / step * step + numerator % step = numerator := by
    rw [Nat.mul_comm]
    exact Nat.div_add_mod numerator step
  have small : numerator % step < step := Nat.mod_lt _ positive
  -- Every other multiple lies at least one step away from one of the two around the numerator.
  have side : count * step ≤ numerator / step * step ∨
      numerator / step * step + step ≤ count * step := by
    rcases Nat.lt_or_ge (numerator / step) count with above | below
    · exact .inr (Nat.succ_mul _ _ ▸ Nat.mul_le_mul_right step above)
    · exact .inl (Nat.mul_le_mul_right step below)
  rcases rounded with ⟨rfl, near⟩ | ⟨rfl, near⟩
  · omega
  · rw [Nat.succ_mul]
    omega

/-- No representable number is nearer to the quotient than the one that rounding ends on. -/
theorem roundUnits_nearest (numerator : Nat) {denominator units : Nat} (positive : 0 < denominator)
    (representable : Representable units) :
    ((roundUnits numerator denominator * denominator : Nat) - numerator : Int).natAbs ≤
      ((units * denominator : Nat) - numerator : Int).natAbs := by
  obtain ⟨shift, significand, ends, binade, rounded⟩ := exists_roundUnits numerator denominator
  have steps (count : Nat) :
      count * 2 ^ shift * denominator = count * (denominator * 2 ^ shift) := by
    rw [Nat.mul_assoc, Nat.mul_comm denominator]
  have nearest := natAbs_sub_le_of_rounded
    (Nat.mul_pos positive (Nat.two_pow_pos shift)) rounded
  rw [ends, steps]
  rcases representable.multiple_or_lt shift with ⟨count, rfl⟩ | ⟨shifted, below⟩
  · rw [steps]
    exact nearest count
  · -- Below the binade everything is farther away than the beginning of the binade, a multiple.
    have reached := binade shifted
    have lower : units * denominator ≤ 2 ^ 52 * (denominator * 2 ^ shift) := by
      rw [← steps]
      exact Nat.mul_le_mul_right _ (Nat.le_of_lt below)
    exact (nearest (2 ^ 52)).trans (by omega)

/-! ### Rounding an integer -/

namespace Binary64

/-- The rational number that a float stands for. -/
def value (number : Binary64) : ℚ := number.signedUnits / unitsOfOne

theorem unitsOfOne_pos : 0 < unitsOfOne := by
  decide

theorem ofInt?_eq_some_iff {whole : Int} {rounded : Binary64} :
    ofInt? whole = some rounded ↔ rounded.negative = decide (whole < 0) ∧
      rounded.units = roundUnits (whole.natAbs * unitsOfOne) 1 := by
  rw [ofInt?, ofUnits?]
  constructor
  · intro done
    split at done
    · obtain rfl := Option.some.inj done
      exact ⟨rfl, rfl⟩
    · cases done
  · rintro ⟨sign, units⟩
    rw [dif_pos (units ▸ rounded.bounded)]
    cases rounded
    rw [Option.some.injEq, mk.injEq]
    exact ⟨sign.symm, units.symm⟩

/-- Every integer of 64 bits can be rounded. -/
theorem exists_ofInt? (whole : Integer) : ∃ rounded, ofInt? whole.value = some rounded := by
  have bounds := And.intro whole.lower whole.upper
  have limit : Representable (2 ^ 64 * unitsOfOne) := ⟨1, 1138, by decide, by decide⟩
  have small : whole.value.natAbs * unitsOfOne ≤ 2 ^ 64 * unitsOfOne :=
    Nat.mul_le_mul_right _ (by omega)
  have nearest := roundUnits_nearest (whole.value.natAbs * unitsOfOne) Nat.one_pos limit
  have finite : 2 ^ 64 * unitsOfOne < unitsOfInfinity := by decide
  have bounded : roundUnits (whole.value.natAbs * unitsOfOne) 1 < unitsOfInfinity := by omega
  exact ⟨⟨_, _, representable_roundUnits _ _, bounded⟩, ofInt?_eq_some_iff.mpr ⟨rfl, rfl⟩⟩

/-- No float is nearer to an integer than the one that the integer is rounded to. -/
theorem ofInt?_nearest {whole : Int} {rounded : Binary64} (done : ofInt? whole = some rounded)
    (other : Binary64) :
    (rounded.signedUnits - whole * unitsOfOne).natAbs ≤
      (other.signedUnits - whole * unitsOfOne).natAbs := by
  obtain ⟨sign, units⟩ := ofInt?_eq_some_iff.mp done
  have nearest := roundUnits_nearest (whole.natAbs * unitsOfOne) Nat.one_pos other.representable
  rw [← units] at nearest
  have magnitude : ((whole.natAbs * unitsOfOne : Nat) : Int) =
      if whole < 0 then -(whole * unitsOfOne) else whole * unitsOfOne := by
    split
    · rw [Nat.cast_mul, Int.ofNat_natAbs_of_nonpos (by omega), Int.neg_mul]
    · rw [Nat.cast_mul, Int.natAbs_of_nonneg (by omega)]
  have positive : 0 ≤ ((whole.natAbs * unitsOfOne : Nat) : Int) := Int.natCast_nonneg _
  simp only [signedUnits, sign, decide_eq_true_eq]
  generalize ((whole.natAbs * unitsOfOne : Nat) : Int) = size at *
  generalize whole * (unitsOfOne : Int) = exact at *
  split at magnitude <;> split <;> omega

/-! ### Values -/

theorem unitsOfOne_cast_pos : (0 : ℚ) < unitsOfOne := Nat.cast_pos.mpr unitsOfOne_pos

theorem value_le_iff {number : Binary64} {whole : Int} :
    number.value ≤ whole ↔ number.signedUnits ≤ whole * unitsOfOne := by
  rw [value, div_le_iff₀ unitsOfOne_cast_pos]
  norm_cast

theorem le_value_iff {number : Binary64} {whole : Int} :
    whole ≤ number.value ↔ whole * unitsOfOne ≤ number.signedUnits := by
  rw [value, le_div_iff₀ unitsOfOne_cast_pos]
  norm_cast

theorem value_eq_iff {first second : Binary64} :
    first.value = second.value ↔ first.signedUnits = second.signedUnits := by
  rw [value, value, div_left_inj' unitsOfOne_cast_pos.ne', Int.cast_inj]

/-- The distance of a float from an integer, counted in units. -/
theorem abs_value_sub (number : Binary64) (whole : Int) :
    |number.value - whole| =
      ((number.signedUnits - whole * unitsOfOne).natAbs : ℚ) / unitsOfOne := by
  have scaled : number.value - whole =
      ((number.signedUnits - whole * unitsOfOne : Int) : ℚ) / unitsOfOne := by
    rw [value, eq_div_iff unitsOfOne_cast_pos.ne', sub_mul,
      div_mul_cancel₀ _ unitsOfOne_cast_pos.ne']
    norm_cast
  rw [scaled, abs_div, abs_of_pos unitsOfOne_cast_pos, Nat.cast_natAbs, Int.cast_abs]

section Rounded

variable {whole : Int} {rounded : Binary64} (done : ofInt? whole = some rounded)
include done

theorem value_nearest (other : Binary64) :
    |rounded.value - whole| ≤ |other.value - whole| := by
  rw [abs_value_sub, abs_value_sub, div_le_div_iff_of_pos_right unitsOfOne_cast_pos]
  exact_mod_cast ofInt?_nearest done other

/-- A number is at most a rounded integer if it is at most the integer, or if the integer falls on
it. -/
theorem le_rounded_iff (bound : Binary64) :
    bound.le rounded = true ↔ bound.value ≤ whole ∨ bound.value = rounded.value := by
  have nearest := ofInt?_nearest done bound
  rw [le, decide_eq_true_iff, value_le_iff, value_eq_iff]
  omega

/-- A rounded integer is at most a number if the integer is at most the number, or falls on it. -/
theorem rounded_le_iff (bound : Binary64) :
    rounded.le bound = true ↔ whole ≤ bound.value ∨ bound.value = rounded.value := by
  have nearest := ofInt?_nearest done bound
  rw [le, decide_eq_true_iff, le_value_iff, value_eq_iff]
  omega

/-- Rounding does not change an integer of at most 53 bits. -/
theorem value_of_ofInt? (small : whole.natAbs ≤ 2 ^ 53) : rounded.value = whole := by
  obtain ⟨sign, units⟩ := ofInt?_eq_some_iff.mp done
  have shifted (place : Nat) : whole.natAbs <<< place = whole.natAbs * 1 <<< place := by
    rw [Nat.shiftLeft_eq, Nat.shiftLeft_eq, Nat.one_mul]
  have representable : Representable (whole.natAbs * unitsOfOne) :=
    shifted 1074 ▸ representable_of_le whole.natAbs 1074 (by omega)
  have exact : rounded.units = whole.natAbs * unitsOfOne := by
    have nearest := roundUnits_nearest (whole.natAbs * unitsOfOne) Nat.one_pos representable
    rw [← units] at nearest
    omega
  have signed : rounded.signedUnits = whole * unitsOfOne := by
    rw [signedUnits, sign, exact, Nat.cast_mul]
    by_cases below : whole < 0
    · rw [if_pos (by simpa using below), Int.ofNat_natAbs_of_nonpos (by omega), Int.neg_mul,
        Int.neg_neg]
    · rw [if_neg (by simpa using below), Int.natAbs_of_nonneg (by omega)]
  rw [value, signed, Int.cast_mul, Int.cast_natCast,
    mul_div_cancel_right₀ _ unitsOfOne_cast_pos.ne']

end Rounded

end Binary64

end JsonShape
