/-
This file says what each of the routines behind a descriptor does, so that nothing
later has to open them: membership as a statement about the fields and the variants,
settling and checking form by form.

The two routines that rebuild a record, one from a value that is accepted
(`settleFields`) and one from raw input (`checkFields`), have one description in
common: each declared field gets a member, in the order of declaration, and its
content is made from what the input holds under the field's name (`Rebuilt`). The
two differ in how that content is made.
-/

import JsonShape.Descriptor.Construction
import JsonShape.Proofs.Aligned
import JsonShape.Proofs.Parts

namespace JsonShape

namespace Descriptor

/-! ### Membership -/

/-- The fields accept the members if each finds a member under its name that its type accepts. -/
theorem acceptsFields_iff {fields : List (String × Descriptor)} {members : List (String × Json)} :
    acceptsFields fields members = true ↔
      ∀ field ∈ fields, ∃ value, Table.find? members field.1 = some value ∧
        field.2.accepts value = true := by
  induction fields with
  | nil => simp [acceptsFields]
  | cons field rest inductionHypothesis =>
    obtain ⟨name, type⟩ := field
    rw [acceptsFields, Bool.and_eq_true, inductionHypothesis, List.forall_mem_cons]
    refine and_congr_left fun _ => ?_
    cases found : Table.find? members name with
    | none => simp
    | some value => simp

/-- The variants accept a value if one of them does. -/
theorem acceptsSome_iff {variants : List (String × Descriptor)} {value : Json} :
    acceptsSome variants value = true ↔
      ∃ variant ∈ variants, variant.2.accepts value = true := by
  induction variants with
  | nil => simp [acceptsSome]
  | cons variant rest inductionHypothesis =>
    simp only [acceptsSome, Bool.or_eq_true, inductionHypothesis, List.mem_cons, exists_eq_or_imp]

theorem accepts_record_iff {identity : Identity} {name : String}
    {fields : List (String × Descriptor)} {value : Json} :
    (record identity name fields).accepts value = true ↔
      ∃ members, value = .object members ∧ acceptsFields fields members = true := by
  cases value <;> simp [accepts]

theorem accepts_sum_iff {identity : Identity} {name : String}
    {variants : List (String × Descriptor)} {value : Json} :
    (sum identity name variants).accepts value = true ↔
      ∃ variant ∈ variants, variant.2.accepts value = true := by
  rw [accepts, acceptsSome_iff]

/-- The first variant that accepts a value, if there is one. -/
def firstAccepting? (variants : List (String × Descriptor)) (value : Json) :
    Option (String × Descriptor) :=
  variants.find? fun variant => variant.2.accepts value

/-- Among variants one of which accepts a value there is a first one. -/
theorem exists_firstAccepting {variants : List (String × Descriptor)} {value : Json}
    (accepted : ∃ variant ∈ variants, variant.2.accepts value = true) :
    ∃ variant, firstAccepting? variants value = some variant := by
  obtain ⟨variant, member, accepts⟩ := accepted
  exact Option.isSome_iff_exists.mp (List.find?_isSome.mpr ⟨variant, member, accepts⟩)

/-- The first accepting variant is one of the variants, and it accepts the value. -/
theorem firstAccepting_spec {variants : List (String × Descriptor)} {value : Json}
    {variant : String × Descriptor} (first : firstAccepting? variants value = some variant) :
    variant ∈ variants ∧ variant.2.accepts value = true :=
  ⟨List.mem_of_find?_eq_some first,
    List.find?_some (p := fun variant : String × Descriptor => variant.2.accepts value) first⟩

/-- The first variant that accepts a value stays the first one for a value that it accepts too and
that no other variant accepts in addition. -/
theorem firstAccepting_of_narrower {variants : List (String × Descriptor)} {value narrower : Json}
    {variant : String × Descriptor} (first : firstAccepting? variants value = some variant)
    (accepted : variant.2.accepts narrower = true)
    (others : ∀ other ∈ variants, other.2.accepts narrower = true →
      other.2.accepts value = true) :
    firstAccepting? variants narrower = some variant := by
  unfold firstAccepting? at first ⊢
  rw [List.find?_eq_some_iff_append] at first ⊢
  obtain ⟨_, before, after, split, refused⟩ := first
  refine ⟨accepted, before, after, split, fun other earlier => ?_⟩
  rw [Bool.not_eq_true', Bool.eq_false_iff]
  intro acceptedEarlier
  have member : other ∈ variants := split ▸ List.mem_append_left _ earlier
  have refusedEarlier := refused other earlier
  simp [others other member acceptedEarlier] at refusedEarlier

/-- A raw value is a member of a descriptor if it passes the test. -/
@[simp] theorem is_raw (type : Descriptor) (value : Json) :
    type.is (.raw value) = type.accepts value := rfl

/-! ### Records rebuilt from their fields -/

/-- One member for each field, in the order of the fields, whose content is made from what the
members hold under the field's name. -/
def Rebuilt (make : Descriptor → Json → Json → Prop) (fields : List (String × Descriptor))
    (members built : List (String × Json)) : Prop :=
  Table.Aligned (fun name type value =>
    ∃ raw, Table.find? members name = some raw ∧ make type raw value) fields built

/-- The content of a field of a rebuilt record has what every content made for it has. -/
theorem forall_find?_of_rebuilt {make : Descriptor → Json → Json → Prop}
    {Property : Descriptor → Json → Prop} {fields : List (String × Descriptor)}
    {members built : List (String × Json)} (distinct : (Table.keys fields).Nodup)
    (rebuilt : Rebuilt make fields members built)
    (each : ∀ field ∈ fields, ∀ raw value, make field.2 raw value → Property field.2 value) :
    ∀ field ∈ fields, ∀ value, Table.find? built field.1 = some value →
      Property field.2 value := by
  intro field member value found
  obtain ⟨made, foundMade, raw, _, madeFor⟩ := rebuilt.find? distinct member
  have same : made = value := Option.some.inj (foundMade.symm.trans found)
  exact same ▸ each field member raw made madeFor

/-- A record can be rebuilt if the content for each field can be made. -/
theorem exists_rebuilt {make : Descriptor → Json → Json → Prop}
    {fields : List (String × Descriptor)} {members : List (String × Json)}
    (each : ∀ field ∈ fields, ∃ raw value, Table.find? members field.1 = some raw ∧
      make field.2 raw value) : ∃ built, Rebuilt make fields members built := by
  refine Table.Aligned.exists_of_forall fun field member => ?_
  obtain ⟨raw, value, found, made⟩ := each field member
  exact ⟨value, raw, found, made⟩

/-! ### Settling -/

/-- Fields that accept the members rebuild the record by settling each member. -/
theorem rebuilt_settleFields {fields : List (String × Descriptor)}
    {members : List (String × Json)} (accepted : acceptsFields fields members = true) :
    Rebuilt (fun type raw value => type.accepts raw = true ∧ value = type.settle raw) fields
      members (settleFields fields members) := by
  rw [acceptsFields_iff] at accepted
  induction fields with
  | nil => exact .nil
  | cons field rest inductionHypothesis =>
    obtain ⟨⟨raw, found, first⟩, others⟩ := List.forall_mem_cons.mp accepted
    rw [settleFields, found]
    exact .cons ⟨raw, found, first, rfl⟩ (inductionHypothesis others)

/-- A sum settles a value the way the first variant that accepts it does. -/
theorem settleFirst_of_firstAccepting {variants : List (String × Descriptor)} {value : Json}
    {variant : String × Descriptor} (first : firstAccepting? variants value = some variant) :
    settleFirst variants value = variant.2.settle value := by
  unfold firstAccepting? at first
  induction variants with
  | nil => cases first
  | cons head rest inductionHypothesis =>
    by_cases accepted : head.2.accepts value = true
    · simp only [List.find?_cons, accepted, Option.some.injEq] at first
      rw [settleFirst, if_pos accepted, first]
    · simp only [List.find?_cons, accepted] at first
      rw [settleFirst, if_neg accepted]
      exact inductionHypothesis first

/-- Settling a record that the descriptor accepts rebuilds it by settling each declared member. -/
theorem settle_record {identity : Identity} {name : String} {fields : List (String × Descriptor)}
    {value : Json} (accepted : (record identity name fields).accepts value = true) :
    ∃ members built, value = .object members ∧
      (record identity name fields).settle value = .object built ∧
      Rebuilt (fun type raw value => type.accepts raw = true ∧ value = type.settle raw) fields
        members built := by
  obtain ⟨members, rfl, acceptedFields⟩ := accepts_record_iff.mp accepted
  exact ⟨members, _, rfl, rfl, rebuilt_settleFields acceptedFields⟩

/-- Settling a member of a sum is left to the first variant that accepts it. -/
theorem settle_sum {identity : Identity} {name : String} {variants : List (String × Descriptor)}
    {value : Json} (accepted : (sum identity name variants).accepts value = true) :
    ∃ variant ∈ variants, firstAccepting? variants value = some variant ∧
      variant.2.accepts value = true ∧
      (sum identity name variants).settle value = variant.2.settle value := by
  obtain ⟨variant, first⟩ := exists_firstAccepting (accepts_sum_iff.mp accepted)
  obtain ⟨member, acceptedThere⟩ := firstAccepting_spec first
  refine ⟨variant, member, first, acceptedThere, ?_⟩
  rw [settle, settleFirst_of_firstAccepting first]

/-! ### Checking -/

/-- A raw value as the test of a scalar sees it. -/
def normalized (normalizer : Option Normalizer) (raw : Json) : Json :=
  match normalizer with
  | some normalize => normalize raw
  | none => raw

theorem check_scalar {identity : Identity} {name : String} {predicate : Predicate}
    {normalizer : Option Normalizer} {schema : Option Json} {raw : Json} :
    (scalar identity name predicate normalizer schema).check raw =
      if predicate (normalized normalizer raw) then ⟨[], .ok (normalized normalizer raw)⟩
      else ⟨[], .error (.invalid name raw [])⟩ := by
  cases normalizer <;> rfl

theorem check_scalar_eq_ok_iff {identity : Identity} {name : String} {predicate : Predicate}
    {normalizer : Option Normalizer} {schema : Option Json} {raw value : Json} :
    ((scalar identity name predicate normalizer schema).check raw).outcome = .ok value ↔
      normalized normalizer raw = value ∧ predicate value = true := by
  rw [check_scalar]
  by_cases passed : predicate (normalized normalizer raw) = true
  · rw [if_pos passed, Except.ok.injEq]
    exact ⟨fun equal => ⟨equal, equal ▸ passed⟩, fun both => both.1⟩
  · rw [if_neg passed]
    simp only [reduceCtorEq, false_iff, not_and]
    exact fun equal holds => passed (equal ▸ holds)

/-- The first field and the remaining ones check on their own. -/
theorem checkFields_cons_eq_ok_iff {owner : String} {field : String × Descriptor}
    {rest : List (String × Descriptor)} {members built : List (String × Json)} :
    (checkFields owner (field :: rest) members).outcome = .ok built ↔
      ∃ raw value others, Table.find? members field.1 = some raw ∧
        (field.2.check raw).outcome = .ok value ∧
        (checkFields owner rest members).outcome = .ok others ∧
        built = (field.1, value) :: others := by
  obtain ⟨name, type⟩ := field
  simp only [checkFields]
  cases found : Table.find? members name with
  | none => simp
  | some raw =>
    cases checked : (type.check raw).outcome with
    | error rejection => simp [checked]
    | ok value =>
      cases others : (checkFields owner rest members).outcome with
      | error rejection => simp [checked, Except.map]
      | ok tail => simp [checked, Except.map, eq_comm]

/-- The fields of a record check if the record can be rebuilt by checking each member. -/
theorem checkFields_eq_ok_iff (owner : String) {fields : List (String × Descriptor)}
    {members built : List (String × Json)} :
    (checkFields owner fields members).outcome = .ok built ↔
      Rebuilt (fun type raw value => (type.check raw).outcome = .ok value) fields members
        built := by
  induction fields generalizing built with
  | nil =>
    rw [checkFields, Except.ok.injEq, Rebuilt, Table.Aligned.nil_iff]
    exact eq_comm
  | cons field rest inductionHypothesis =>
    rw [checkFields_cons_eq_ok_iff, Rebuilt, Table.Aligned.cons_iff]
    constructor
    · rintro ⟨raw, value, others, found, checked, done, rfl⟩
      exact ⟨value, others, ⟨raw, found, checked⟩, inductionHypothesis.mp done, rfl⟩
    · rintro ⟨value, others, ⟨raw, found, checked⟩, rebuilt, rfl⟩
      exact ⟨raw, value, others, found, checked, inductionHypothesis.mpr rebuilt, rfl⟩

theorem check_record_eq_ok_iff {identity : Identity} {name : String}
    {fields : List (String × Descriptor)} {raw value : Json} :
    ((record identity name fields).check raw).outcome = .ok value ↔
      ∃ members built, raw = .object members ∧ value = .object built ∧
        Rebuilt (fun type raw value => (type.check raw).outcome = .ok value) fields members
          built := by
  cases raw with
  | object members =>
    simp only [check, Json.object.injEq, exists_and_left, exists_eq_left',
      ← checkFields_eq_ok_iff name]
    cases checked : (checkFields name fields members).outcome with
    | error rejection => simp
    | ok built =>
      simp only [Except.ok.injEq, exists_eq_right']
      exact eq_comm
  | null | bool | number | string | array => simp [check]

theorem check_variant_eq_ok_iff {identity : Identity} {name : String} {payload : Descriptor}
    {raw value : Json} :
    ((variant identity name payload).check raw).outcome = .ok value ↔
      (payload.check raw).outcome = .ok value ∧ payload.accepts value = true := by
  simp only [check]
  cases checked : (payload.check raw).outcome with
  | error rejection => simp
  | ok built =>
    simp only [Except.ok.injEq]
    split
    · rename_i accepted
      simp only [Except.ok.injEq]
      exact ⟨fun equal => ⟨equal, equal ▸ accepted⟩, fun both => both.1⟩
    · rename_i refused
      simp only [reduceCtorEq, false_iff, not_and]
      exact fun equal accepted => refused (equal ▸ accepted)

/-- What the variants construct together, one of them constructs. -/
theorem exists_check_of_checkFirst {variants : List (String × Descriptor)} {raw value : Json}
    (built : (checkFirst variants raw).outcome = some value) :
    ∃ variant ∈ variants, (variant.2.check raw).outcome = .ok value := by
  induction variants with
  | nil => cases built
  | cons head rest inductionHypothesis =>
    simp only [checkFirst] at built
    cases checked : (head.2.check raw).outcome with
    | ok first =>
      rw [checked] at built
      obtain rfl := Option.some.inj built
      exact ⟨head, List.mem_cons_self, checked⟩
    | error rejection =>
      rw [checked] at built
      obtain ⟨variant, member, done⟩ := inductionHypothesis built
      exact ⟨variant, List.mem_cons_of_mem _ member, done⟩

/-- If one of the variants can construct the value, the variants together do. -/
theorem exists_checkFirst_of_check {variants : List (String × Descriptor)} {raw : Json}
    (able : ∃ variant ∈ variants, ∃ value, (variant.2.check raw).outcome = .ok value) :
    ∃ value, (checkFirst variants raw).outcome = some value := by
  induction variants with
  | nil => obtain ⟨_, member, _⟩ := able; cases member
  | cons head rest inductionHypothesis =>
    simp only [checkFirst]
    cases checked : (head.2.check raw).outcome with
    | ok first => exact ⟨first, rfl⟩
    | error rejection =>
      obtain ⟨variant, member, value, done⟩ := able
      rcases List.mem_cons.mp member with rfl | inRest
      · rw [checked] at done
        cases done
      · exact inductionHypothesis ⟨variant, inRest, value, done⟩

/-- A sum settles what one of its variants accepts; only what none accepts is given to the
variants to construct. -/
theorem check_sum_eq_ok_iff {identity : Identity} {name : String}
    {variants : List (String × Descriptor)} {raw value : Json} :
    ((sum identity name variants).check raw).outcome = .ok value ↔
      (acceptsSome variants raw = true ∧ settleFirst variants raw = value) ∨
        (acceptsSome variants raw = false ∧ (checkFirst variants raw).outcome = some value) := by
  simp only [check]
  cases accepted : acceptsSome variants raw with
  | true => simp
  | false =>
    cases checked : (checkFirst variants raw).outcome with
    | none => simp
    | some built => simp

/-- Construction is checking, with the descriptor as the tag. -/
theorem construct_eq_ok_iff {type : Descriptor} {raw : Json} {made : Instance} :
    (type.construct raw).outcome = .ok made ↔
      made.descriptor = type ∧ (type.check raw).outcome = .ok made.value := by
  obtain ⟨descriptor, value⟩ := made
  simp only [construct]
  cases checked : (type.check raw).outcome with
  | error rejection => simp
  | ok built => simp [eq_comm]

end Descriptor

end JsonShape
