/-
This file asks what becomes of a value that a union has made when the union is given
it again. The union accepts the value and settles it, so the question is which values
settling leaves alone. These are the values in canonical form for the variant that
comes first, at every sum inside (`Descriptor.Settled`).

Canonical form for some variant is not enough. A union goes through its variants in
the order of their declaration, and the one that has made a value need not be the
first that accepts it. If an earlier one is a record, it takes the members for its
own that it declares and drops the others. So a value that came about by the
normalizer of a later variant can lose members. A value that was settled once is
settled for good, because settling takes members away and no variant accepts a value
on account of a member that is missing (`Loadable.settled_settle`).
-/

import JsonShape.Pattern.Basic
import JsonShape.Proofs.Canonical
import JsonShape.Proofs.Growth

namespace JsonShape

namespace Descriptor

/-! ### Settled values -/

/-- The value is in the form in which settling leaves it: a record's holds exactly the declared
fields in order, and a sum's is settled for the first variant that accepts it. -/
inductive Settled : Descriptor → Json → Prop
  | scalar {identity name predicate normalizer schema value} (passed : predicate value = true) :
      Settled (.scalar identity name predicate normalizer schema) value
  | record {identity name fields members} (keys : Table.keys members = Table.keys fields)
      (each : ∀ field ∈ fields, ∀ value, Table.find? members field.1 = some value →
        Settled field.2 value) :
      Settled (.record identity name fields) (.object members)
  | variant {identity name payload value} (inner : Settled payload value) :
      Settled (.variant identity name payload) value
  | sum {identity name variants value} {variant : String × Descriptor}
      (first : firstAccepting? variants value = some variant) (inner : Settled variant.2 value) :
      Settled (.sum identity name variants) value

/-- Settled values are canonical. -/
theorem Settled.canonical {type : Descriptor} {value : Json} (settled : Settled type value) :
    Canonical type value := by
  induction settled with
  | scalar passed => exact .scalar passed
  | record keys _ inductionHypothesis => exact .record keys inductionHypothesis
  | variant _ inductionHypothesis => exact .variant inductionHypothesis
  | sum first _ inductionHypothesis =>
    exact .sum (firstAccepting_spec first).1 inductionHypothesis

/-- Settling leaves settled values alone. -/
theorem Settled.settle_eq {type : Descriptor} {value : Json} (settled : Settled type value)
    (distinct : type.Distinct) : type.settle value = value := by
  induction settled with
  | scalar => rfl
  | @record identity name fields members keys each inductionHypothesis =>
    have canonical : Canonical (.record identity name fields) (.object members) :=
      (Settled.record keys each).canonical
    obtain ⟨_, built, equal, settles, rebuilt⟩ := settle_record canonical.accepts
    obtain rfl := Json.object.inj equal
    rw [settles]
    have names : Table.keys built = Table.keys fields := rebuilt.keys
    refine congrArg Json.object (Table.eq_of_find? ?_ (names.trans keys.symm) fun key named => ?_)
    · rw [names]
      exact distinct.names
    · rw [names] at named
      obtain ⟨field, member, rfl⟩ := List.mem_map.mp named
      obtain ⟨made, foundMade, raw, found, _, rfl⟩ := rebuilt.find? distinct.names member
      rw [foundMade, found,
        inductionHypothesis field member raw found (distinct.part (.field member))]
  | variant _ inductionHypothesis => exact inductionHypothesis (distinct.part .payload)
  | sum first _ inductionHypothesis =>
    have member := (firstAccepting_spec first).1
    rw [settle, settleFirst_of_firstAccepting first]
    exact inductionHypothesis (distinct.part (.variant member))

/-- What settling leaves alone is settled. -/
theorem settled_of_settle_eq {type : Descriptor} (distinct : type.Distinct) {value : Json}
    (accepted : type.accepts value = true) (fixed : type.settle value = value) :
    Settled type value := by
  induction type generalizing value with
  | scalar identity name predicate normalizer schema => exact .scalar accepted
  | record identity name fields inductionHypothesis =>
    obtain ⟨members, built, rfl, settles, rebuilt⟩ := settle_record accepted
    rw [settles, Json.object.injEq] at fixed
    rw [fixed] at rebuilt
    refine .record rebuilt.keys fun field member value found => ?_
    obtain ⟨made, foundMade, raw, foundRaw, acceptedRaw, settled⟩ :=
      rebuilt.find? distinct.names member
    obtain rfl : made = value := Option.some.inj (foundMade.symm.trans found)
    obtain rfl : raw = made := Option.some.inj (foundRaw.symm.trans found)
    exact inductionHypothesis field member (distinct.part (.field member)) acceptedRaw
      settled.symm
  | variant identity name payload inductionHypothesis =>
    exact .variant (inductionHypothesis (distinct.part .payload) accepted fixed)
  | sum identity name variants inductionHypothesis =>
    obtain ⟨variant, member, first, acceptedThere, settles⟩ := settle_sum accepted
    rw [settles] at fixed
    exact .sum first
      (inductionHypothesis variant member (distinct.part (.variant member)) acceptedThere fixed)

/-- The settled values are the ones that settling leaves alone. -/
theorem settle_eq_self_iff {type : Descriptor} (distinct : type.Distinct) {value : Json}
    (accepted : type.accepts value = true) :
    type.settle value = value ↔ Settled type value :=
  ⟨settled_of_settle_eq distinct accepted, fun settled => settled.settle_eq distinct⟩

end Descriptor

variable {engine : PatternEngine}

/-- The variant that settles a value is also the first one to accept what it leaves of it. -/
theorem Loadable.firstAccepting_settle {identity : Identity} {name : String}
    {variants : List (String × Descriptor)}
    (loadable : Loadable engine (.sum identity name variants)) {value : Json}
    {variant : String × Descriptor}
    (first : Descriptor.firstAccepting? variants value = some variant) :
    Descriptor.firstAccepting? variants (variant.2.settle value) = some variant := by
  obtain ⟨member, accepted⟩ := Descriptor.firstAccepting_spec first
  have canonical := Descriptor.canonical_settle (loadable.part (.variant member)).distinct accepted
  refine Descriptor.firstAccepting_of_narrower first canonical.accepts ?_
  -- A variant that accepts the settled value accepts the value with all its members.
  intro other otherMember acceptedSettled
  exact (loadable.part (.variant otherMember)).accepts_of_grows
    (Descriptor.settle_grows accepted) acceptedSettled

/-- What a loadable type settles is settled for good. -/
theorem Loadable.settled_settle {type : Descriptor} (loadable : Loadable engine type) {value : Json}
    (accepted : type.accepts value = true) : type.Settled (type.settle value) := by
  induction type generalizing value with
  | scalar identity name predicate normalizer schema => exact .scalar accepted
  | record identity name fields inductionHypothesis =>
    obtain ⟨members, built, rfl, settles, rebuilt⟩ := Descriptor.settle_record accepted
    rw [settles]
    refine .record rebuilt.keys
      (Descriptor.forall_find?_of_rebuilt loadable.distinct.names rebuilt ?_)
    rintro field member raw _ ⟨acceptedRaw, rfl⟩
    exact inductionHypothesis field member (loadable.part (.field member)) acceptedRaw
  | variant identity name payload inductionHypothesis =>
    exact .variant (inductionHypothesis (loadable.part .payload) accepted)
  | sum identity name variants inductionHypothesis =>
    obtain ⟨variant, member, first, acceptedThere, settles⟩ := Descriptor.settle_sum accepted
    rw [settles]
    exact .sum (loadable.firstAccepting_settle first)
      (inductionHypothesis variant member (loadable.part (.variant member)) acceptedThere)

/-! ### Constructing again -/

theorem Registry.type?_of_union? {registry : Registry} {name : String} {union : Union}
    (found : registry.union? name = some union) : registry.type? name = some union.asType := by
  unfold union? at found
  unfold type?
  split at found
  · rename_i content entry
    rw [entry, Option.some.inj found]
    rfl
  · cases found

/-- A union settles the members it is given. -/
theorem Union.construct_outcome_of_accepts {union : Union} {value : Json}
    (accepted : union.asType.accepts value = true) :
    (union.asType.construct value).outcome = .ok ⟨union.asType, union.asType.settle value⟩ :=
  Descriptor.construct_eq_ok_iff.mpr
    ⟨rfl, Descriptor.check_sum_eq_ok_iff.mpr (Or.inl ⟨accepted, rfl⟩)⟩

/-- A union of a registry that was loaded from texts constructs its own results again. It leaves a
result alone exactly if it is settled; this is so whenever the union accepted the raw value to
begin with, and from the second time on in any case. -/
theorem Union.construct_again {registry : Registry} (grown : Grown engine registry) {name : String}
    {union : Union} (found : registry.union? name = some union) {raw : Json} {made : Instance}
    (built : (union.asType.construct raw).outcome = .ok made) :
    ∃ again, (union.asType.construct made.value).outcome = .ok again ∧
      (again.value = made.value ↔ union.asType.Settled made.value) ∧
      (union.is (.raw raw) = true → again.value = made.value) ∧
      (union.asType.construct again.value).outcome = .ok again := by
  have loadable := grown.holds_loadable.type? (Registry.type?_of_union? found)
  obtain ⟨tag, checked⟩ := Descriptor.construct_eq_ok_iff.mp built
  have accepted := (Descriptor.canonical_check loadable.distinct checked).accepts
  have settled := loadable.settled_settle accepted
  refine ⟨_, construct_outcome_of_accepts accepted,
    Descriptor.settle_eq_self_iff loadable.distinct accepted, fun member => ?_, ?_⟩
  · have acceptedRaw : union.asType.accepts raw = true := by
      rwa [Union.is, Descriptor.is_raw] at member
    have first : made.value = union.asType.settle raw := by
      rw [construct_outcome_of_accepts acceptedRaw, Except.ok.injEq] at built
      rw [← built]
    show union.asType.settle made.value = made.value
    rw [first]
    exact (loadable.settled_settle acceptedRaw).settle_eq loadable.distinct
  · have again := construct_outcome_of_accepts settled.canonical.accepts
    rwa [settled.settle_eq loadable.distinct] at again

/-- A result that was made from a bare value is left alone. -/
theorem Union.construct_again_result :
    let raw : Json := .number (.integer ⟨5, by decide, by decide⟩)
    let made : Instance := ⟨Result.union.asType, successPayload raw⟩
    Result.union.is (.raw raw) = false ∧ (Result.union.asType.construct raw).outcome = .ok made ∧
      ∃ again, (Result.union.asType.construct made.value).outcome = .ok again ∧
        again.value = made.value := by
  intro raw made
  have found : Registry.standard.union? "Result" = some Result.union := rfl
  have built : (Result.union.asType.construct raw).outcome = .ok made := rfl
  have grown : Grown Pattern.engine .standard := .standard
  obtain ⟨again, builtAgain, kept, _⟩ := construct_again grown found built
  have first : Descriptor.firstAccepting? Result.union.variants made.value =
      some ("Ok", Result.okType) := rfl
  have settled : Result.union.asType.Settled made.value := .sum first (.variant (.scalar rfl))
  exact ⟨rfl, built, again, builtAgain, kept.mpr settled⟩

/-- A text with a union in which a record comes before the success that is a member of it too. -/
def overlappingReplies : String :=
  "\x7b\"types\": \x7b\"Reply\": \x7b\"union\":
    \x7b\"Bare\": \x7b\"ok\": \"Boolean\"\x7d, \"Full\": \"Success\"\x7d\x7d\x7d\x7d"

/-- A number is made into a success, of which the bare reply leaves only `ok` the next time. So the
second variant's result does not survive the first variant. -/
theorem Union.construct_again_ne :
    ∃ loaded union made again,
      Registry.standard.loadText Pattern.engine overlappingReplies .full = .ok loaded ∧
      Grown Pattern.engine loaded.registry ∧ loaded.registry.union? "Reply" = some union ∧
      (union.asType.construct (.number (.integer ⟨5, by decide, by decide⟩))).outcome =
        .ok made ∧
      (union.asType.construct made.value).outcome = .ok again ∧
      made.value.text = "\x7b\"ok\":true,\"value\":5\x7d" ∧
      again.value.text = "\x7b\"ok\":true\x7d" ∧ again.value ≠ made.value := by
  have run : (do
      let loaded ← (Registry.standard.loadText Pattern.engine overlappingReplies .full).toOption
      let union ← loaded.registry.union? "Reply"
      let made ← (union.asType.construct
        (.number (.integer ⟨5, by decide, by decide⟩))).outcome.toOption
      let again ← (union.asType.construct made.value).outcome.toOption
      return (made.value.text, again.value.text)) =
      some ("\x7b\"ok\":true,\"value\":5\x7d", "\x7b\"ok\":true\x7d") := by
    decide +kernel
  simp only [bind, Option.bind_eq_some_iff, toOption_eq_some_iff, pure, Option.some.injEq,
    Prod.mk.injEq] at run
  obtain ⟨loaded, done, union, found, made, built, again, builtAgain, text, textAgain⟩ := run
  refine ⟨loaded, union, made, again, done, .load .standard done, found, built, builtAgain, text,
    textAgain, fun same => ?_⟩
  rw [same, text] at textAgain
  revert textAgain
  decide

end JsonShape
