/-
This file opens descriptors up. What holds of all descriptors is proved for the four
forms, each time from what holds of the descriptors it is built from
(`Descriptor.induction`). The parts of a descriptor are the descriptor itself and
everything it is built from, at any depth; a property of a descriptor as a whole is
a property of each of its parts, and can be tested by going through them
(`forall_mem_parts_iff`). The base of a refinement is no part of it, because a
refinement is a scalar whose test merely asks the base.

The one property that every descriptor has in practice is that no record declares a
field twice and no sum a variant (`Descriptor.Distinct`): both are held in tables,
and writing into a table under a known name replaces what was there.
-/

import JsonShape.Descriptor.Basic

namespace JsonShape

namespace Descriptor

/-! ### Induction over the form of a descriptor -/

/-- A statement holds of every descriptor if it holds of the scalars, and of the other three forms
as soon as it holds of what they are built from. -/
@[elab_as_elim, induction_eliminator]
theorem induction {motive : Descriptor → Prop}
    (scalar : ∀ identity name predicate normalizer schema,
      motive (.scalar identity name predicate normalizer schema))
    (record : ∀ identity name fields, (∀ field ∈ fields, motive field.2) →
      motive (.record identity name fields))
    (variant : ∀ identity name payload, motive payload →
      motive (.variant identity name payload))
    (sum : ∀ identity name variants, (∀ variant ∈ variants, motive variant.2) →
      motive (.sum identity name variants))
    (type : Descriptor) : motive type := by
  -- A list of named descriptors has the property when each of its entries has it.
  refine @Descriptor.rec motive (fun entries => ∀ entry ∈ entries, motive entry.2)
    (fun entry => motive entry.2) scalar record variant sum ?_ ?_ ?_ type
  · intro entry member
    cases member
  · intro head rest ofHead ofRest entry member
    rcases List.mem_cons.mp member with rfl | inRest
    · exact ofHead
    · exact ofRest entry inRest
  · intro _ _ held
    exact held

/-! ### Parts -/

/-- The named descriptors that a descriptor is built from: the fields of a record, the variants of
a sum. -/
def named : Descriptor → List (String × Descriptor)
  | record _ _ fields => fields
  | sum _ _ variants => variants
  | _ => []

/-- The descriptors that a descriptor is directly built from. -/
def children : Descriptor → List Descriptor
  | variant _ _ payload => [payload]
  | type => type.named.map Prod.snd

/-- The descriptor itself, and what it is built from at any depth. -/
inductive PartOf (part : Descriptor) : Descriptor → Prop
  | self : PartOf part part
  | inside {child type : Descriptor} (direct : child ∈ type.children)
      (deeper : PartOf part child) : PartOf part type

/-- A part of a part is a part. -/
theorem PartOf.trans {inner part type : Descriptor} (first : PartOf inner part)
    (second : PartOf part type) : PartOf inner type := by
  induction second with
  | self => exact first
  | inside direct _ inductionHypothesis => exact .inside direct inductionHypothesis

/-- A property that goes over to what a descriptor is directly built from goes over to its parts. -/
theorem PartOf.inherits {Property : Descriptor → Prop}
    (children : ∀ type, Property type → ∀ child ∈ type.children, Property child)
    {part type : Descriptor} (within : PartOf part type) (holds : Property type) :
    Property part := by
  induction within with
  | self => exact holds
  | inside direct _ inductionHypothesis =>
    exact inductionHypothesis (children _ holds _ direct)

theorem PartOf.field {identity : Identity} {name : String} {fields : List (String × Descriptor)}
    {field : String × Descriptor} (member : field ∈ fields) :
    PartOf field.2 (record identity name fields) :=
  .inside (List.mem_map_of_mem member) .self

theorem PartOf.payload {identity : Identity} {name : String} {payload : Descriptor} :
    PartOf payload (variant identity name payload) :=
  .inside List.mem_cons_self .self

theorem PartOf.variant {identity : Identity} {name : String}
    {variants : List (String × Descriptor)} {variant : String × Descriptor}
    (member : variant ∈ variants) : PartOf variant.2 (sum identity name variants) :=
  .inside (List.mem_map_of_mem member) .self

/-! ### Properties of a descriptor as a whole -/

/-- Every part of the descriptor has the property. -/
def Throughout (Property : Descriptor → Prop) (type : Descriptor) : Prop :=
  ∀ part, PartOf part type → Property part

section Throughout

variable {Property : Descriptor → Prop} {type : Descriptor}

theorem Throughout.here (holds : type.Throughout Property) : Property type :=
  holds type .self

theorem Throughout.part {part : Descriptor} (holds : type.Throughout Property)
    (within : PartOf part type) : part.Throughout Property :=
  fun inner deeper => holds inner (deeper.trans within)

/-- A property holds throughout a descriptor if the descriptor has it and it holds throughout what
the descriptor is directly built from. -/
theorem throughout_iff :
    type.Throughout Property ↔
      Property type ∧ ∀ child ∈ type.children, child.Throughout Property := by
  constructor
  · intro holds
    exact ⟨holds.here, fun child direct => holds.part (.inside direct .self)⟩
  · rintro ⟨here, each⟩ part (_ | ⟨direct, deeper⟩)
    · exact here
    · exact each _ direct part deeper

@[simp] theorem throughout_scalar_iff {identity : Identity} {name : String}
    {predicate : Predicate} {normalizer : Option Normalizer} {schema : Option Json} :
    (scalar identity name predicate normalizer schema).Throughout Property ↔
      Property (.scalar identity name predicate normalizer schema) := by
  rw [throughout_iff]
  exact and_iff_left fun child direct => nomatch direct

@[simp] theorem throughout_record_iff {identity : Identity} {name : String}
    {fields : List (String × Descriptor)} :
    (record identity name fields).Throughout Property ↔
      Property (.record identity name fields) ∧
        ∀ field ∈ fields, field.2.Throughout Property := by
  rw [throughout_iff]
  exact and_congr_right fun _ => List.forall_mem_map

@[simp] theorem throughout_variant_iff {identity : Identity} {name : String}
    {payload : Descriptor} :
    (variant identity name payload).Throughout Property ↔
      Property (.variant identity name payload) ∧ payload.Throughout Property := by
  rw [throughout_iff]
  exact and_congr_right fun _ => List.forall_mem_singleton

@[simp] theorem throughout_sum_iff {identity : Identity} {name : String}
    {variants : List (String × Descriptor)} :
    (sum identity name variants).Throughout Property ↔
      Property (.sum identity name variants) ∧
        ∀ variant ∈ variants, variant.2.Throughout Property := by
  rw [throughout_iff]
  exact and_congr_right fun _ => List.forall_mem_map

end Throughout

/-! ### Going through the parts -/

mutual

/-- The parts of a descriptor, itself first. -/
def parts : Descriptor → List Descriptor
  | scalar identity name predicate normalizer schema =>
      [scalar identity name predicate normalizer schema]
  | record identity name fields => record identity name fields :: partsOfEach fields
  | variant identity name payload => variant identity name payload :: payload.parts
  | sum identity name variants => sum identity name variants :: partsOfEach variants

/-- The parts of the fields of a record or the variants of a sum. -/
def partsOfEach : List (String × Descriptor) → List Descriptor
  | [] => []
  | (_, type) :: rest => type.parts ++ partsOfEach rest

end

theorem partsOfEach_eq_flatMap (entries : List (String × Descriptor)) :
    partsOfEach entries = entries.flatMap fun entry => entry.2.parts := by
  induction entries with
  | nil => rfl
  | cons entry rest inductionHypothesis =>
    rw [partsOfEach, inductionHypothesis, List.flatMap_cons]

/-- A property holds throughout a descriptor if each part in the list has it. -/
theorem forall_mem_parts_iff {Property : Descriptor → Prop} {type : Descriptor} :
    (∀ part ∈ type.parts, Property part) ↔ type.Throughout Property := by
  induction type with
  | scalar => rw [parts, throughout_scalar_iff, List.forall_mem_singleton]
  | record identity name fields inductionHypothesis =>
    rw [parts, throughout_record_iff, List.forall_mem_cons, partsOfEach_eq_flatMap,
      List.forall_mem_flatMap]
    exact and_congr_right fun _ => forall₂_congr inductionHypothesis
  | variant identity name payload inductionHypothesis =>
    rw [parts, throughout_variant_iff, List.forall_mem_cons, inductionHypothesis]
  | sum identity name variants inductionHypothesis =>
    rw [parts, throughout_sum_iff, List.forall_mem_cons, partsOfEach_eq_flatMap,
      List.forall_mem_flatMap]
    exact and_congr_right fun _ => forall₂_congr inductionHypothesis

instance decidableThroughout {Property : Descriptor → Prop} [DecidablePred Property]
    (type : Descriptor) : Decidable (type.Throughout Property) :=
  decidable_of_iff _ forall_mem_parts_iff

/-! ### Distinct names -/

/-- No record in the descriptor declares a field twice, and no sum a variant. -/
def Distinct (type : Descriptor) : Prop :=
  type.Throughout fun part => (Table.keys part.named).Nodup

theorem Distinct.part {part type : Descriptor} (distinct : type.Distinct)
    (within : PartOf part type) : part.Distinct :=
  Throughout.part distinct within

theorem Distinct.names {type : Descriptor} (distinct : type.Distinct) :
    (Table.keys type.named).Nodup :=
  Throughout.here distinct

end Descriptor

end JsonShape
