/-
This file compares the direct ways to the instances of `Maybe` and `Result` with
construction through the variants. Nothing and failures are made without a check: the
payload is put together by hand and tagged. The other two are construction itself and
may fail.

All four variants have a scalar for their payload, and such a variant does one thing
(`Descriptor.construct_variant_scalar`): it normalizes the value, and tags the outcome if
it passes the test of the scalar. So tagging without a check is construction wherever the
normalizer makes of every value one that passes, and it does for nothing and for failures.
That makes the test superfluous there, and never wrong.
-/

import JsonShape.Proofs.Exclusive

namespace JsonShape

/-! ### Variants of scalars -/

/-- An outcome that cannot be a failure, among outcomes that can. -/
def Traced.certain {Outcome Failure : Type} (traced : Traced Outcome) :
    Traced (Except Failure Outcome) :=
  ⟨traced.lines, .ok traced.outcome⟩

/-- A variant of a scalar tags what the normalizer makes of a value, if that passes the test, and
otherwise rejects the value in the name of the scalar. -/
theorem Descriptor.construct_variant_scalar {identity inner : Identity} {name payload : String}
    {predicate : Predicate} {normalizer : Option Normalizer} {schema : Option Json} (raw : Json) :
    (variant identity name (scalar inner payload predicate normalizer schema)).construct raw =
      if predicate (normalized normalizer raw) then
        (tagged (variant identity name (scalar inner payload predicate normalizer schema))
          (normalized normalizer raw)).certain
      else ⟨[], .error (.invalid payload raw [])⟩ := by
  rw [construct, check, check_scalar]
  by_cases passed : predicate (normalized normalizer raw) = true
  · simp only [passed, if_true, accepts]
    rfl
  · simp only [passed, Bool.false_eq_true, if_false]

/-! ### Values that may be absent -/

namespace Maybe

/-- Absence is all that the variant of a value that is there refuses. -/
theorem just_eq (value : Json) :
    just value = if value.isSomething then (tagged justType value).certain
      else ⟨[], .error (.invalid "Any" value [])⟩ :=
  Descriptor.construct_variant_scalar value

/-- Every value is turned into absence. -/
theorem nothingType_construct (value : Json) : nothingType.construct value = nothing.certain :=
  Descriptor.construct_variant_scalar value

end Maybe

/-! ### Successes and failures -/

namespace Result

/-- Absence is all that the variant of successes refuses. -/
theorem ok_eq (value : Json) :
    ok value = if value.isSomething then (tagged okType (successPayload value)).certain
      else ⟨[], .error (.invalid "Success" value [])⟩ := by
  rw [← isSuccess_successPayload]
  exact Descriptor.construct_variant_scalar value

/-- Every value is turned into the payload of a failure, which passes its test. -/
theorem errType_construct (value : Json) : errType.construct value = (err value).certain :=
  Descriptor.construct_variant_scalar value

end Result

/-- What is refused is absence, if absence is all that is refused. -/
theorem exists_error_iff_of_eq {value : Json} {built : Traced (Except Rejection Instance)}
    {made : Traced Instance} {rejection : Rejection}
    (equal : built = if value.isSomething then made.certain else ⟨[], .error rejection⟩) :
    (∃ refusal, built.outcome = .error refusal) ↔ value = .null := by
  rw [equal]
  by_cases absent : value = .null
  · simp [absent, Json.isSomething, Json.isNothing]
  · simp [absent, Json.isSomething_iff.mpr absent, Traced.certain]

/-- The direct ways agree with construction through the variants, in the tag, the value and the
lines of the trace. A failure and nothing are constructed from every value, and what is tagged for
them without a check is accepted by its tag. A value that is there and a success are refused for
absence and for nothing else. -/
theorem Union.construct_eq_direct (value : Json) :
    Result.union.construct "Err" value = .ok (Result.err value).certain ∧
      Maybe.union.construct "Nothing" value = .ok Maybe.nothing.certain ∧
      Maybe.union.construct "Just" value = .ok (Maybe.just value) ∧
      Result.union.construct "Ok" value = .ok (Result.ok value) ∧
      ((∃ rejection, (Maybe.just value).outcome = .error rejection) ↔ value = .null) ∧
      ((∃ rejection, (Result.ok value).outcome = .error rejection) ↔ value = .null) ∧
      (Result.err value).outcome.descriptor.is (.raw (Result.err value).outcome.value) = true ∧
      Maybe.nothing.outcome.descriptor.is (.raw Maybe.nothing.outcome.value) = true := by
  have err : Result.union.construct "Err" value = .ok (Result.errType.construct value) := rfl
  have nothing : Maybe.union.construct "Nothing" value = .ok (Maybe.nothingType.construct value) :=
    rfl
  rw [err, Result.errType_construct, nothing, Maybe.nothingType_construct]
  exact ⟨rfl, rfl, rfl, rfl, exists_error_iff_of_eq (Maybe.just_eq value),
    exists_error_iff_of_eq (Result.ok_eq value), rfl, rfl⟩

end JsonShape
