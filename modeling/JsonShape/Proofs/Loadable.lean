/-
This file describes the types that definition files can produce. A registry that
starts from the standard types and is extended by loading texts (`Grown`) holds
nothing but standard types, refinements of what it held before, records, and sums
of variants over what it held before (`Grown.holds_loadable`). What is claimed of
every loaded type is then proved by induction on how the type came about
(`Loadable`), without looking at registries or texts again. A property that says less
of a type need only be kept by each way of making one (`Grown.holds`).
-/

import JsonShape.Proofs.Declaring

namespace JsonShape

/-- A registry with nothing in it but the standard types and what texts have declared. -/
inductive Grown (engine : PatternEngine) : Registry → Prop
  | standard : Grown engine .standard
  | load {registry : Registry} (grown : Grown engine registry) {text : String} {supply : Supply}
      {loaded : Registry.Loaded} (done : registry.loadText engine text supply = .ok loaded) :
      Grown engine loaded.registry

/-- A type that is standard or declared over such types. -/
inductive Loadable (engine : PatternEngine) : Descriptor → Prop
  | standard {type : Descriptor} (member : type ∈ Standard.all) : Loadable engine type
  | refined {identity : Identity} {name : String} {base : Descriptor} {pattern : Option Matcher}
      {refinement : Refinement} (known : Loadable engine base)
      (compiled : Registry.compilePattern engine name refinement = .ok pattern)
      (ordered : Registry.crossed? refinement = none) :
      Loadable engine (.scalar identity name
        (Registry.refinedPredicate base pattern refinement.minimum refinement.maximum) none
        (some (Registry.refinedSchema name base refinement)))
  | record {identity : Identity} {name : String} {fields : List (String × Descriptor)}
      (names : (Table.keys fields).Nodup) (each : ∀ field ∈ fields, Loadable engine field.2) :
      Loadable engine (.record identity name fields)
  | variant {identity : Identity} {name : String} {payload : Descriptor}
      (known : Loadable engine payload) : Loadable engine (.variant identity name payload)
  | sum {identity : Identity} {name : String} {variants : List (String × Descriptor)}
      (names : (Table.keys variants).Nodup)
      (each : ∀ variant ∈ variants, Loadable engine variant.2) :
      Loadable engine (.sum identity name variants)

variable {engine : PatternEngine}

/-! ### The standard types -/

/-- Every standard type but the two unions is a scalar. -/
theorem Standard.exists_scalar_of_mem_all {type : Descriptor} (member : type ∈ Standard.all) :
    ∃ name predicate normalizer schema,
      type = .scalar (.standard name) name predicate normalizer (some schema) := by
  simp only [Standard.all, List.mem_cons, List.not_mem_nil, or_false] at member
  rcases member with rfl | rfl | rfl | rfl | rfl | rfl | rfl | rfl | rfl <;>
    exact ⟨_, _, _, _, rfl⟩

theorem Primitive.descriptor_mem_all (kind : Primitive) : kind.descriptor ∈ Standard.all := by
  cases kind <;> simp [Primitive.descriptor, Standard.all]

/-- The variants of the two standard unions are made from standard types. -/
theorem loadable_standardVariant {union name : String} {payload : Descriptor}
    (member : payload ∈ Standard.all) : Loadable engine (standardVariant union name payload) :=
  .variant (.standard member)

theorem loadable_maybe : Loadable engine Maybe.union.asType := by
  refine .sum (by decide) fun variant member => ?_
  simp only [Maybe.union, List.mem_cons, List.not_mem_nil, or_false] at member
  rcases member with rfl | rfl <;>
    exact loadable_standardVariant (by simp [Standard.all])

theorem loadable_result : Loadable engine Result.union.asType := by
  refine .sum (by decide) fun variant member => ?_
  simp only [Result.union, List.mem_cons, List.not_mem_nil, or_false] at member
  rcases member with rfl | rfl <;>
    exact loadable_standardVariant (by simp [Standard.all])

/-! ### Grown registries -/

/-- A grown registry holds only types with a property that the standard types have and that
declaring keeps. -/
theorem Grown.holds {Property : Descriptor → Prop} (closed : Registry.Closed engine Property)
    (standard : Registry.standard.Holds Property) {registry : Registry}
    (grown : Grown engine registry) : registry.Holds Property := by
  induction grown with
  | standard => exact standard
  | load _ done inductionHypothesis => exact closed.loadText inductionHypothesis done

/-- Each way of making a type is one of the ways to a loadable type. -/
theorem Loadable.closed : Registry.Closed engine (Loadable engine) where
  primitives kind := .standard kind.descriptor_mem_all
  refined known compiled ordered := .refined known compiled ordered
  record _ names _ each := .record names each
  union {_ payloads} supply _ names _ each := by
    have variants := makeVariants_aligned payloads supply
    refine .sum (variants.keys ▸ names) fun variant member => ?_
    obtain ⟨payload, payloadMember, identity, equal⟩ := variants.exists_first member
    exact equal ▸ .variant (each _ payloadMember)

/-- A grown registry holds loadable types only. -/
theorem Grown.holds_loadable {registry : Registry} (grown : Grown engine registry) :
    registry.Holds (Loadable engine) :=
  grown.holds Loadable.closed
    (Registry.standard_holds (fun _ known => .standard known) loadable_maybe loadable_result)

/-! ### Parts -/

/-- What a loadable type is built from is loadable. -/
theorem Loadable.part {part type : Descriptor} (loadable : Loadable engine type)
    (within : part.PartOf type) : Loadable engine part := by
  refine within.inherits (fun type loadable child direct => ?_) loadable
  cases loadable with
  | standard member =>
    obtain ⟨_, _, _, _, rfl⟩ := Standard.exists_scalar_of_mem_all member
    cases direct
  | refined => cases direct
  | record _ each =>
    obtain ⟨field, member, rfl⟩ := List.mem_map.mp direct
    exact each field member
  | variant known => exact List.mem_singleton.mp direct ▸ known
  | sum _ each =>
    obtain ⟨variant, member, rfl⟩ := List.mem_map.mp direct
    exact each variant member

/-- Neither records nor sums among the loadable types hold a name twice. -/
theorem Loadable.distinct {type : Descriptor} (loadable : Loadable engine type) :
    type.Distinct := by
  intro part within
  cases loadable.part within with
  | standard member =>
    obtain ⟨_, _, _, _, rfl⟩ := Standard.exists_scalar_of_mem_all member
    exact List.nodup_nil
  | refined => exact List.nodup_nil
  | record names _ => exact names
  | variant _ => exact List.nodup_nil
  | sum names _ => exact names

end JsonShape
