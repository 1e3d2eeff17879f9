/-
This file describes every type that a caller can get hold of, by whatever way it came
about (`Descriptor.Obtainable`): standard types, scalars of the caller's own,
refinements, records and unions that were made or loaded, and the variants of unions.
It says of a record and of a union which names were refused on the way, and of a union
which turns its variants and the union itself took from the supply.

Making a type of such types leads to one again (`Descriptor.Obtainable.closed`), and with
it loading and every other step of a session (`Session.Reachable.obtainable`). So what is
claimed of all types is proved once for each way in which a type comes about, without
looking at sessions or texts again.
-/

import JsonShape.Proofs.Constructible
import JsonShape.Proofs.Session

namespace JsonShape

/-- A type that a caller can get hold of. -/
inductive Descriptor.Obtainable (engine : PatternEngine) : Descriptor → Prop
  | standard {type : Descriptor} (member : type ∈ standardPool) : Obtainable engine type
  | scalar (name : String) (predicate : Predicate) (normalizer : Option Normalizer)
      (identity : Identity) : Obtainable engine (.scalar identity name predicate normalizer none)
  | refined {identity : Identity} {name : String} {base : Descriptor} {pattern : Option Matcher}
      {refinement : Refinement} (known : Obtainable engine base)
      (compiled : Registry.compilePattern engine name refinement = .ok pattern)
      (ordered : Registry.crossed? refinement = none) :
      Obtainable engine (.scalar identity name
        (Registry.refinedPredicate base pattern refinement.minimum refinement.maximum) none
        (some (Registry.refinedSchema name base refinement)))
  | record {identity : Identity} {name : String} {fields : List (String × Descriptor)}
      (named : blank name = false) (names : (Table.keys fields).Nodup)
      (written : ∀ field ∈ fields, blank field.1 = false)
      (each : ∀ field ∈ fields, Obtainable engine field.2) :
      Obtainable engine (.record identity name fields)
  | variant {identity : Identity} {name : String} {payload : Descriptor}
      (named : blank name = false) (known : Obtainable engine payload) :
      Obtainable engine (.variant identity name payload)
  | union {name : String} {payloads : List (String × Descriptor)} (supply : Supply)
      (named : blank name = false) (names : (Table.keys payloads).Nodup)
      (written : ∀ payload ∈ payloads, blank payload.1 = false)
      (each : ∀ payload ∈ payloads, Obtainable engine payload.2) :
      Obtainable engine (.sum (makeVariants payloads supply).2.draw.1 name
        (makeVariants payloads supply).1)

variable {engine : PatternEngine}

namespace Descriptor.Obtainable

/-- What an obtainable type is built from is obtainable. -/
theorem part {part type : Descriptor} (obtainable : type.Obtainable engine)
    (within : part.PartOf type) : part.Obtainable engine := by
  refine within.inherits (fun type obtainable child direct => ?_) obtainable
  cases obtainable with
  | standard member => exact .standard (standardPool_children member direct)
  | scalar => cases direct
  | refined => cases direct
  | record _ _ _ each =>
    obtain ⟨field, member, rfl⟩ := List.mem_map.mp direct
    exact each field member
  | variant _ known => exact List.mem_singleton.mp direct ▸ known
  | @union _ payloads supply _ _ written each =>
    obtain ⟨variant, member, rfl⟩ := List.mem_map.mp direct
    obtain ⟨payload, known, identity, equal⟩ :=
      (makeVariants_aligned payloads supply).exists_first member
    exact equal ▸ .variant (written (_, payload) known) (each _ known)

/-! ### Declared types -/

/-- Each way of making a type is one of the ways to an obtainable type. -/
theorem closed : Registry.Closed engine (Obtainable engine) where
  primitives kind := .standard (List.mem_append_left _ kind.descriptor_mem_all)
  refined known compiled ordered := .refined known compiled ordered
  record named names written each := .record named names written each
  union supply named names written each := .union supply named names written each

end Descriptor.Obtainable

open Descriptor (Obtainable)

theorem Registry.standard_holds_obtainable : Registry.standard.Holds (Obtainable engine) :=
  fun entry member => .standard (standard_holds_pool entry member)

/-- A grown registry holds obtainable types only. -/
theorem Grown.holds_obtainable {registry : Registry} (grown : Grown engine registry) :
    registry.Holds (Obtainable engine) :=
  grown.holds Obtainable.closed Registry.standard_holds_obtainable

/-! ### Sessions -/

namespace Session

/-- Everything that the caller holds has the property: types, registered entries and tags. -/
structure Holds (Property : Descriptor → Prop) (session : Session) : Prop where
  types : ∀ type ∈ session.types, Property type
  registries : ∀ registry ∈ session.registries, registry.Holds Property
  made : ∀ made ∈ session.made, Property made.descriptor

namespace Holds

variable {Property : Descriptor → Prop} {session : Session}

theorem hold (holds : session.Holds Property) {type : Descriptor} (new : Property type)
    (rest : Supply) : (session.hold type rest).Holds Property where
  types := List.forall_mem_cons.mpr ⟨new, holds.types⟩
  registries := holds.registries
  made := holds.made

theorem extend (holds : session.Holds Property) {registry : Registry}
    (new : registry.Holds Property) (rest : Supply) :
    (session.extend registry rest).Holds Property where
  types := holds.types
  registries := List.forall_mem_cons.mpr ⟨new, holds.registries⟩
  made := holds.made

theorem insert (holds : session.Holds Property) {registry extended : Registry} {name : String}
    {entry : Entry} (held : registry ∈ session.registries) (new : Property entry.asType)
    (done : registry.insert name entry = .ok extended) :
    (session.extend extended session.supply).Holds Property := by
  obtain ⟨_, rfl⟩ := Registry.insert_eq_ok_iff.mp done
  exact holds.extend ((holds.registries registry held).append name new) session.supply

theorem keep (holds : session.Holds Property) {made : Instance} (new : Property made.descriptor) :
    (session.keep made).Holds Property where
  types := holds.types
  registries := holds.registries
  made := List.forall_mem_cons.mpr ⟨new, holds.made⟩

theorem keep_constructed (holds : session.Holds Property) {type : Descriptor} {raw : Json}
    {made : Instance} (known : Property type) (done : (type.construct raw).outcome = .ok made) :
    (session.keep made).Holds Property :=
  holds.keep ((Descriptor.construct_eq_ok_iff.mp done).1.symm ▸ known)

end Holds

theorem holds_obtainable_start : start.Holds (Obtainable engine) where
  types := List.forall_mem_nil _
  registries := by
    intro registry held
    simp only [start, List.mem_cons, List.not_mem_nil, or_false] at held
    rcases held with rfl | rfl
    · exact List.forall_mem_nil _
    · exact Registry.standard_holds_obtainable
  made := List.forall_mem_nil _

/-- In a session of obtainable types, all known types are obtainable. -/
theorem Holds.known {session : Session} (holds : session.Holds (Obtainable engine))
    {type : Descriptor} (known : session.Knows type) : type.Obtainable engine := by
  obtain ⟨whole, origin, within⟩ := known
  refine Descriptor.Obtainable.part ?_ within
  rcases origin with standard | held | ⟨made, member, rfl⟩ | ⟨registry, held, entry, member, rfl⟩
  · exact .standard standard
  · exact holds.types whole held
  · exact holds.made made member
  · exact holds.registries registry held entry member

/-- Each step makes obtainable types of obtainable types. -/
theorem Holds.step {session next : Session} (holds : session.Holds (Obtainable engine))
    (step : Step engine session next) : next.Holds (Obtainable engine) := by
  have standard : ∀ type ∈ [Maybe.justType, Maybe.nothingType, Result.okType, Result.errType],
      type.Obtainable engine := by
    intro type member
    refine .standard ?_
    simp only [List.mem_cons, List.not_mem_nil, or_false] at member
    rcases member with rfl | rfl | rfl | rfl <;> simp [standardPool]
  cases step with
  | hold known => exact holds.hold (holds.known known) session.supply
  | makeScalar name predicate normalizer =>
    exact holds.hold (.scalar name predicate normalizer _) _
  | makeRecord refers done =>
    have obtainable := refers.mono fun _ => holds.known
    exact holds.hold (Obtainable.closed.of_resolve obtainable _ _ _ _ done) _
  | makeUnion refers done =>
    have obtainable := refers.mono fun _ => holds.known
    exact holds.hold (Obtainable.closed.of_makeUnion obtainable done) _
  | @insertType registry extended type held known done =>
    have obtainable : (Entry.type type).asType.Obtainable engine := holds.known known
    exact holds.insert held obtainable done
  | @insertUnion registry extended union held known done =>
    have obtainable : (Entry.union union).asType.Obtainable engine := holds.known known
    exact holds.insert held obtainable done
  | @load registry text loaded held done =>
    exact holds.extend (Obtainable.closed.loadText (holds.registries registry held) done) _
  | construct known done => exact holds.keep_constructed (holds.known known) done
  | @constructVariant union name raw built made known found done =>
    obtain ⟨type, variantFound, rfl⟩ := Union.construct_eq_ok_iff.mp found
    have within : type.PartOf union.asType := .variant (Table.mem_of_find? variantFound)
    exact holds.keep_constructed ((holds.known known).part within) done
  | just done => exact holds.keep_constructed (standard _ (by simp)) done
  | nothing => exact holds.keep (standard _ (by simp [Maybe.nothing, tagged]))
  | ok done => exact holds.keep_constructed (standard _ (by simp)) done
  | err error => exact holds.keep (standard _ (by simp [Result.err, tagged]))
  | ofExcept outcome =>
    rcases Result.ofExcept_cases outcome with ⟨error, failed⟩ | ⟨value, built⟩
    · exact holds.keep (failed ▸ standard _ (by simp [Result.err, tagged]))
    · exact holds.keep_constructed (standard _ (by simp)) built

/-- All types of a session that can be reached are obtainable. -/
theorem Reachable.obtainable {session : Session} (reachable : Reachable engine session)
    {type : Descriptor} (known : session.Knows type) : type.Obtainable engine := by
  have holds : session.Holds (Obtainable engine) := by
    clear known
    induction reachable with
    | start => exact holds_obtainable_start
    | step _ step inductionHypothesis => exact inductionHypothesis.step step
  exact holds.known known

end Session

end JsonShape
