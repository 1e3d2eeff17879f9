/-
This file looks at unions of which no two variants accept the same value. There the
tag of an instance says nothing that its plain value does not say as well, so the two
are dispatched alike (`Union.variantOf?_tagged_of_exclusive`).

The standard unions are of this kind. `Maybe` takes every value, absence as nothing and
everything else as it is. `Result` takes the two payloads that its constructors make, and an
object cannot both affirm and deny `ok`; a value of any other form becomes the payload
of a success, or of a failure if it is absent. What comes out is always accepted by
exactly one variant (`Session.standard_partition`).
-/

import JsonShape.Pattern.Basic
import JsonShape.Proofs.Dispatch
import JsonShape.Proofs.Settled

namespace JsonShape

/-! ### Variants that exclude each other -/

namespace Union

/-- No value is accepted by two variants. -/
def Exclusive (union : Union) : Prop := ∀ value, (union.matching value).length ≤ 1

/-- A variant that accepts a value is the only one. -/
theorem Exclusive.matching_eq {union : Union} (exclusive : union.Exclusive) {value : Json}
    {name : String} (member : name ∈ union.matching value) : union.matching value = [name] := by
  have single : (union.matching value).length = 1 :=
    Nat.le_antisymm (exclusive value) (List.length_pos_of_mem member)
  obtain ⟨only, equal⟩ := List.length_eq_one_iff.mp single
  rw [equal, List.mem_singleton] at member
  rw [equal, member]

/-- An instance is dispatched like its plain value. -/
theorem variantOf?_tagged_of_exclusive {union : Union} (exclusive : union.Exclusive)
    {made : Instance} (arises : (Subject.tagged made).Arises union) :
    union.variantOf? (.tagged made) = union.variantOf? (.raw made.value) := by
  have untagged : union.variantOf? (.raw made.value) = (union.matching made.value).head? :=
    firstAccepting?_eq_head? union made.value
  rw [untagged]
  cases dispatched : union.variantOf? (.tagged made) with
  | none =>
    have none : union.matching made.value = [] := by
      by_contra some
      obtain ⟨name, found⟩ := (exists_variantOf?_iff arises).mpr some
      cases dispatched.symm.trans found
    rw [none]
    rfl
  | some name =>
    have member : name ∈ union.matching made.value := mem_matching_of_variantOf? arises dispatched
    rw [exclusive.matching_eq member]
    rfl

/-- A union takes a member as it is, if each of its variants does. -/
theorem construct_outcome_of_settles {union : Union} {value : Json}
    (accepted : union.asType.accepts value = true)
    (each : ∀ variant ∈ union.variants, variant.2.settle value = value) :
    (union.asType.construct value).outcome = .ok ⟨union.asType, value⟩ := by
  obtain ⟨variant, member, _, _, settles⟩ := Descriptor.settle_sum accepted
  have kept : union.asType.settle value = value := settles.trans (each variant member)
  rw [construct_outcome_of_accepts accepted, kept]

end Union

/-! ### Values that may be absent -/

namespace Maybe

theorem matching_eq (value : Json) :
    union.matching value = [if value.isNothing then "Nothing" else "Just"] := by
  cases value <;> rfl

theorem exclusive : union.Exclusive := by
  intro value
  rw [matching_eq]
  exact Nat.le_refl 1

/-- Every value is taken as it is. -/
theorem construct_outcome (value : Json) :
    (union.asType.construct value).outcome = .ok ⟨union.asType, value⟩ := by
  have accepted : union.asType.accepts value = true := by
    rw [← Union.matching_ne_nil_iff, matching_eq]
    exact List.cons_ne_nil _ _
  exact Union.construct_outcome_of_settles accepted
    (List.forall_mem_cons.mpr ⟨rfl, List.forall_mem_singleton.mpr rfl⟩)

end Maybe

/-! ### Successes and failures -/

theorem Json.isSomething_iff {value : Json} : value.isSomething = true ↔ value ≠ .null := by
  cases value <;> simp [isSomething, isNothing]

/-- No object both affirms and denies `ok`. -/
theorem isFailure_of_isSuccess {value : Json} (success : isSuccess value = true) :
    isFailure value = false := by
  rw [← Bool.not_eq_true, isFailure_iff]
  rintro ⟨denied, _⟩
  cases (isSuccess_iff.mp success).1.symm.trans denied

namespace Result

theorem matching_eq (value : Json) :
    union.matching value =
      if isSuccess value then ["Ok"] else if isFailure value then ["Err"] else [] := by
  have filtered : union.matching value =
      (if isSuccess value then ["Ok"] else []) ++ if isFailure value then ["Err"] else [] := by
    show Table.keys (List.filter (fun variant => variant.2.accepts value) union.variants) = _
    have ok : okType.accepts value = isSuccess value := rfl
    have err : errType.accepts value = isFailure value := rfl
    cases success : isSuccess value <;> cases failure : isFailure value <;>
      simp [union, List.filter, ok, err, success, failure, Table.keys]
  rw [filtered]
  by_cases success : isSuccess value = true
  · simp only [success, isFailure_of_isSuccess success, if_true, Bool.false_eq_true, if_false,
      List.append_nil]
  · simp only [success, Bool.false_eq_true, if_false, List.nil_append]

theorem exclusive : union.Exclusive := by
  intro value
  rw [matching_eq]
  split
  · exact Nat.le_refl 1
  · split
    · exact Nat.le_refl 1
    · exact Nat.zero_le 1

/-- A member is taken as it is. -/
theorem construct_outcome_of_is {value : Json} (member : union.is (.raw value) = true) :
    (union.asType.construct value).outcome = .ok ⟨union.asType, value⟩ :=
  Union.construct_outcome_of_settles member
    (List.forall_mem_cons.mpr ⟨rfl, List.forall_mem_singleton.mpr rfl⟩)

/-- Anything but absence makes a success. -/
theorem isSuccess_successPayload (value : Json) :
    isSuccess (successPayload value) = value.isSomething := by
  cases value <;> rfl

theorem ok_outcome {value : Json} (present : value ≠ .null) :
    (ok value).outcome = .ok ⟨okType, successPayload value⟩ := by
  have success : isSuccess (successPayload value) = true :=
    (isSuccess_successPayload value).trans (Json.isSomething_iff.mpr present)
  exact Descriptor.construct_eq_ok_iff.mpr ⟨rfl, Descriptor.check_variant_eq_ok_iff.mpr
    ⟨Descriptor.check_scalar_eq_ok_iff.mpr ⟨rfl, success⟩, success⟩⟩

/-- What is no member is given to the constructor of successes first. -/
theorem construct_outcome_of_ok {value : Json} {made : Instance}
    (member : union.is (.raw value) = false) (built : (ok value).outcome = .ok made) :
    (union.asType.construct value).outcome = .ok ⟨union.asType, made.value⟩ := by
  obtain ⟨_, checked⟩ := Descriptor.construct_eq_ok_iff.mp built
  refine Descriptor.construct_eq_ok_iff.mpr ⟨rfl, Descriptor.check_sum_eq_ok_iff.mpr
    (Or.inr ⟨member, ?_⟩)⟩
  show (Descriptor.checkFirst union.variants value).outcome = some made.value
  simp only [union, Descriptor.checkFirst, checked]

/-- Every value can be constructed, and exactly one variant accepts the outcome. -/
theorem exists_construct_outcome (value : Json) :
    ∃ made, (union.asType.construct value).outcome = .ok made ∧
      (union.is (.raw value) = true → made.value = value) ∧
      (union.is (.raw value) = false → value ≠ .null →
        ∃ success, (ok value).outcome = .ok success ∧ made.value = success.value) ∧
      (value = .null → made.value = (err value).outcome.value) ∧
      ∃ name, union.matching made.value = [name] := by
  by_cases member : union.is (.raw value) = true
  · refine ⟨_, construct_outcome_of_is member, fun _ => rfl, fun refused => ?_, ?_, ?_⟩
    · cases member.symm.trans refused
    · rintro rfl
      cases member
    · obtain ⟨name, accepting⟩ :=
        List.exists_mem_of_ne_nil _ (Union.matching_ne_nil_iff.mpr member)
      exact ⟨name, exclusive.matching_eq accepting⟩
  · by_cases absent : value = .null
    · subst absent
      exact ⟨⟨union.asType, failurePayload .null⟩, rfl, fun accepted => absurd accepted member,
        fun _ present => absurd rfl present, fun _ => rfl, "Err", rfl⟩
    · have built := ok_outcome absent
      have refused := Bool.eq_false_iff.mpr member
      refine ⟨_, construct_outcome_of_ok refused built, fun accepted => absurd accepted member,
        fun _ _ => ⟨_, built, rfl⟩, fun null => absurd null absent, "Ok", ?_⟩
      rw [matching_eq, isSuccess_successPayload, if_pos (Json.isSomething_iff.mpr absent)]

end Result

/-! ### Every instance -/

/-- An instance that one of the direct ways to a value of a standard union makes. -/
inductive MadeDirectly : Instance → Prop
  | just {raw : Json} {made : Instance} (done : (Maybe.just raw).outcome = .ok made) :
      MadeDirectly made
  | nothing : MadeDirectly Maybe.nothing.outcome
  | ok {raw : Json} {made : Instance} (done : (Result.ok raw).outcome = .ok made) :
      MadeDirectly made
  | err (error : Json) : MadeDirectly (Result.err error).outcome
  | ofExcept (outcome : Except String Json) : MadeDirectly (Result.ofExcept outcome).outcome

theorem MadeDirectly.reachable (engine : PatternEngine) {made : Instance}
    (direct : MadeDirectly made) : Session.Reachable engine (Session.start.keep made) := by
  refine .step .start ?_
  cases direct with
  | just done => exact .just done
  | nothing => exact .nothing
  | ok done => exact .ok done
  | err error => exact .err error
  | ofExcept outcome => exact .ofExcept outcome

namespace Session

/-- The standard unions are known from the beginning. -/
theorem knows_standard (session : Session) :
    session.Knows Maybe.union.asType ∧ session.Knows Result.union.asType :=
  ⟨.of_standard (by simp [standardPool]), .of_standard (by simp [standardPool])⟩

/-- The standard unions dispatch an instance like its plain value. -/
theorem variantOf?_standard {engine : PatternEngine} {session : Session}
    (reachable : Reachable engine session) {made : Instance} (member : made ∈ session.made) :
    Maybe.union.variantOf? (.tagged made) = Maybe.union.variantOf? (.raw made.value) ∧
      Result.union.variantOf? (.tagged made) = Result.union.variantOf? (.raw made.value) :=
  ⟨Union.variantOf?_tagged_of_exclusive Maybe.exclusive
      (.tagged reachable member session.knows_standard.1),
    Union.variantOf?_tagged_of_exclusive Result.exclusive
      (.tagged reachable member session.knows_standard.2)⟩

/-- Every value has exactly one variant in `Maybe` and at most one in `Result`. Both unions can be
constructed from every value: `Maybe` takes it as it is, and so does `Result` if it is a member;
otherwise it becomes the success that is made from it, or the failure that is made from absence,
and in every case exactly one variant accepts the outcome. In a session that can be reached, a union
without a value for two variants dispatches every instance like its plain value. This holds of
`Maybe` and `Result`, also for the instances that are made without naming a variant. -/
theorem standard_partition :
    (∀ value : Json,
      (∃ name, Maybe.union.matching value = [name]) ∧
        (Result.union.matching value).length ≤ 1 ∧
        (Maybe.union.asType.construct value).outcome = .ok ⟨Maybe.union.asType, value⟩ ∧
        ∃ made, (Result.union.asType.construct value).outcome = .ok made ∧
          (Result.union.is (.raw value) = true → made.value = value) ∧
          (Result.union.is (.raw value) = false → value ≠ .null →
            ∃ success, (Result.ok value).outcome = .ok success ∧ made.value = success.value) ∧
          (value = .null → made.value = (Result.err value).outcome.value) ∧
          ∃ name, Result.union.matching made.value = [name]) ∧
      (∀ engine session, Reachable engine session → ∀ made ∈ session.made, ∀ union : Union,
        session.Knows union.asType → union.Exclusive →
          union.variantOf? (.tagged made) = union.variantOf? (.raw made.value)) ∧
      (∀ engine session, Reachable engine session → ∀ made ∈ session.made,
        Maybe.union.variantOf? (.tagged made) = Maybe.union.variantOf? (.raw made.value) ∧
          Result.union.variantOf? (.tagged made) = Result.union.variantOf? (.raw made.value)) ∧
      ∀ made, MadeDirectly made →
        Maybe.union.variantOf? (.tagged made) = Maybe.union.variantOf? (.raw made.value) ∧
          Result.union.variantOf? (.tagged made) = Result.union.variantOf? (.raw made.value) := by
  refine ⟨fun value => ⟨⟨_, Maybe.matching_eq value⟩, Result.exclusive value,
    Maybe.construct_outcome value, Result.exists_construct_outcome value⟩, ?_, ?_, ?_⟩
  · intro engine session reachable made member union known exclusive
    exact Union.variantOf?_tagged_of_exclusive exclusive (.tagged reachable member known)
  · exact fun engine session reachable made member => variantOf?_standard reachable member
  · exact fun made direct =>
      variantOf?_standard (direct.reachable Pattern.engine) List.mem_cons_self

/-- A remark in a union of numbers and texts, and a success without a value that was lifted into a
result: each has the variant of its plain value. A bare zero becomes the payload of a success. -/
theorem standard_partition_remark :
    let amount : Descriptor := .variant (.made 0) "Amount" Standard.number
    let remark : Descriptor := .variant (.made 1) "Remark" Standard.string
    let reading : Union := ⟨.made 2, "Reading", [("Amount", amount), ("Remark", remark)]⟩
    let late : Instance := ⟨remark, .string "late"⟩
    let session : Session := (start.hold reading.asType ⟨3⟩).keep late
    let failed : Instance := (Result.ofExcept (.ok .null)).outcome
    let zero : Json := .number (.float (.zero false))
    Reachable Pattern.engine session ∧ late ∈ session.made ∧ session.Knows reading.asType ∧
      reading.Exclusive ∧ reading.variantOf? (.tagged late) = reading.variantOf? (.raw late.value) ∧
      MadeDirectly failed ∧ failed.value = failurePayload (.string "null is not a valid Success") ∧
      Result.union.variantOf? (.tagged failed) = Result.union.variantOf? (.raw failed.value) ∧
      Result.union.is (.raw zero) = false ∧ zero ≠ .null ∧
      ∃ made success, (Result.union.asType.construct zero).outcome = .ok made ∧
        (Result.ok zero).outcome = .ok success ∧ made.value = success.value := by
  intro amount remark reading late session failed zero
  have refers : (FieldSpec.record [("Amount", .primitive .number), ("Remark",
      .primitive .string)]).Over start.Knows :=
    FieldSpec.over_record_iff.mpr ⟨by decide, List.forall_mem_cons.mpr
      ⟨.primitive .number, List.forall_mem_singleton.mpr (.primitive .string)⟩⟩
  have done : makeUnion "Reading" [("Amount", .primitive .number), ("Remark",
      .primitive .string)] start.supply = .ok (reading, ⟨3⟩) := rfl
  have unionStep : Step Pattern.engine start (start.hold reading.asType ⟨3⟩) :=
    .makeUnion refers done
  have known : (start.hold reading.asType ⟨3⟩).Knows reading.asType := .of_held List.mem_cons_self
  have reached : reading.construct "Remark" (.string "late") =
      .ok (remark.construct (.string "late")) := rfl
  have variantStep : Step Pattern.engine (start.hold reading.asType ⟨3⟩) session :=
    .constructVariant known reached rfl
  have reachable : Reachable Pattern.engine session := .step (.step .start unionStep) variantStep
  have knows : session.Knows reading.asType := .of_held List.mem_cons_self
  have exclusive : reading.Exclusive := by
    intro value
    cases value with
    | number | string => exact Nat.le_refl 1
    | null | bool | array | object => exact Nat.zero_le 1
  obtain ⟨values, agrees, _, direct⟩ := standard_partition
  obtain ⟨_, _, _, made, built, _, fromSuccess, _⟩ := values zero
  have bare : zero ≠ .null := Json.noConfusion
  obtain ⟨success, succeeded, equal⟩ := fromSuccess rfl bare
  exact ⟨reachable, List.mem_cons_self, knows, exclusive,
    agrees Pattern.engine session reachable late List.mem_cons_self reading knows exclusive,
    .ofExcept (.ok .null), rfl, (direct failed (.ofExcept (.ok .null))).2, rfl, bare,
    made, success, built, succeeded, equal⟩

end Session

end JsonShape
