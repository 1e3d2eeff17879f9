/-
This file says which integers a bounded number accepts. A bound is a float, and so is the
number it is compared with, so an integer is rounded first. Rounding carries an integer
to the nearest float and past none, and so the bounds decide as if integers were not
rounded, but for one thing: an integer beyond a bound is accepted if the bound is the
very float that it is rounded to (`run_bounds_integers`). No integer of at most 53 bits
is beyond the float that it is rounded to.
-/

import JsonShape.Pattern.Basic
import JsonShape.Proofs.Growth
import JsonShape.Proofs.History
import JsonShape.Proofs.Rounding

namespace JsonShape

variable {engine : PatternEngine}

namespace Registry

/-- What a bound asks of a number, after rounding. -/
theorem boundHolds_iff {bound : Option Binary64} {test : Binary64 → Binary64 → Bool}
    {value : Json} {rounded : Binary64} (float : value.binary64? = some rounded) :
    boundHolds bound test value = true ↔ ∀ given ∈ bound, test given rounded = true := by
  cases bound with
  | none => exact iff_of_true rfl fun _ none => nomatch none
  | some given =>
    rw [boundHolds, float]
    simp only [Option.mem_some_iff, forall_eq']

theorem binary64?_integer (whole : Integer) :
    (Json.number (.integer whole)).binary64? = Binary64.ofInt? whole.value := by
  rw [Json.binary64?, Number.toBinary64?]

/-- A number that is bounded by floats accepts an integer if the integer lies between the bounds or
is rounded to the one that it lies beyond. An integer is rounded to the nearest float, and one of at
most 53 bits is not changed, so of these exactly those between the bounds are accepted. -/
theorem run_bounds_integers {calls : List Call} {name : String} {minimum maximum : Option Binary64}
    (declared : (name, .refine ⟨"Number", none, minimum, maximum⟩) ∈ standard.history engine calls)
    (whole : Integer) :
    ∃ type nearest, (standard.run engine calls).type? name = some type ∧
      Binary64.ofInt? whole.value = some nearest ∧
      (∀ other : Binary64, |nearest.value - whole.value| ≤ |other.value - whole.value|) ∧
      (type.is (.raw (.number (.integer whole))) = true ↔
        (∀ low ∈ minimum, low.value ≤ whole.value ∨ low.value = nearest.value) ∧
          ∀ high ∈ maximum, whole.value ≤ high.value ∨ high.value = nearest.value) ∧
      (whole.value.natAbs ≤ 2 ^ 53 →
        (type.is (.raw (.number (.integer whole))) = true ↔
          (∀ low ∈ minimum, low.value ≤ whole.value) ∧
            ∀ high ∈ maximum, whole.value ≤ high.value)) := by
  obtain ⟨type, base, pattern, found, foundBase, compiled, accepts, _⟩ := history_refine declared
  obtain ⟨nearest, rounded⟩ := Binary64.exists_ofInt? whole
  have float := (binary64?_integer whole).trans rounded
  obtain rfl : Standard.number = base :=
    Option.some.inj ((type?_run (by rfl) calls).symm.trans foundBase)
  obtain rfl : none = pattern := Except.ok.inj compiled
  have member : type.is (.raw (.number (.integer whole))) = true ↔
      (∀ low ∈ minimum, low.value ≤ whole.value ∨ low.value = nearest.value) ∧
        ∀ high ∈ maximum, whole.value ≤ high.value ∨ high.value = nearest.value := by
    have inBase : Standard.number.accepts (.number (.integer whole)) = true := rfl
    simp only [Descriptor.is_raw, accepts, refinedPredicate_eq_true_iff, inBase, patternHolds,
      boundHolds_iff float, Binary64.le_rounded_iff rounded,
      Binary64.rounded_le_iff rounded, true_and]
  refine ⟨type, nearest, found, rounded, Binary64.value_nearest rounded, member, fun small => ?_⟩
  -- A bound that such an integer is rounded to is the integer itself.
  have exact := Binary64.value_of_ofInt? rounded small
  rw [member, exact]
  constructor
  · rintro ⟨above, below⟩
    exact ⟨fun low given => (above low given).elim id le_of_eq,
      fun high given => (below high given).elim id ge_of_eq⟩
  · rintro ⟨above, below⟩
    exact ⟨fun low given => .inl (above low given), fun high given => .inl (below high given)⟩

/-- A text with numbers that are bounded by 2⁵³. -/
def counts : String :=
  "\x7b\"types\": \x7b
    \"Count\": \x7b\"refine\": \x7b\"base\": \"Number\",
      \"maximum\": 9007199254740992\x7d\x7d\x7d\x7d"

/-- The float 2⁵³. -/
def countLimit : Binary64 := ⟨false, 1 <<< 1127, ⟨1, 1127, by decide, rfl⟩, by decide⟩

theorem counts_declared :
    ("Count", .refine ⟨"Number", none, none, some countLimit⟩) ∈
      standard.history Pattern.engine [.load counts .full] := by
  rw [← mem_refinements_iff]
  decide +kernel

/-- The bound itself is not changed by rounding, and it is accepted. -/
theorem run_bounds_integers_count :
    let limit : Integer := ⟨9007199254740992, by decide, by decide⟩
    ("Count", .refine ⟨"Number", none, none, some countLimit⟩) ∈
        standard.history Pattern.engine [.load counts .full] ∧
      limit.value.natAbs ≤ 2 ^ 53 ∧ limit.value ≤ countLimit.value ∧
      ∃ type, (standard.run Pattern.engine [.load counts .full]).type? "Count" = some type ∧
        type.is (.raw (.number (.integer limit))) = true := by
  intro limit
  have small : limit.value.natAbs ≤ 2 ^ 53 := by decide
  have below : limit.value ≤ countLimit.value := by
    rw [Binary64.le_value_iff]
    decide +kernel
  obtain ⟨type, nearest, found, _, _, _, exact⟩ := run_bounds_integers counts_declared limit
  have between : ∀ high ∈ some countLimit, limit.value ≤ high.value :=
    fun high given => Option.mem_some_iff.mp given ▸ below
  have unbounded : ∀ low ∈ (none : Option Binary64), low.value ≤ limit.value :=
    fun low given => absurd given (Option.not_mem_none low)
  exact ⟨counts_declared, small, below, type, found, (exact small).mpr ⟨unbounded, between⟩⟩

/-- Bounds are not exact. The integer 2⁵³ + 1 is above the bound 2⁵³, but it is rounded to it and
accepted. -/
theorem not_exact_bounds :
    let large : Integer := ⟨9007199254740993, by decide, by decide⟩
    ("Count", .refine ⟨"Number", none, none, some countLimit⟩) ∈
        standard.history Pattern.engine [.load counts .full] ∧
      ∃ type, (standard.run Pattern.engine [.load counts .full]).type? "Count" = some type ∧
        type.is (.raw (.number (.integer large))) = true ∧ ¬ large.value ≤ countLimit.value := by
  intro large
  have run : ((standard.run Pattern.engine [.load counts .full]).type? "Count").map
      (·.is (.raw (.number (.integer large)))) = some true := by
    decide +kernel
  obtain ⟨type, found, accepted⟩ := Option.map_eq_some_iff.mp run
  refine ⟨counts_declared, type, found, accepted, ?_⟩
  rw [Binary64.le_value_iff]
  decide +kernel

end Registry

end JsonShape
