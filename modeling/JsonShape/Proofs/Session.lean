/-
This file follows a caller of the library through a session. The caller makes types,
unions and registries, loads definition files, and constructs instances in every way
there is, each time from descriptors that have come into being before. Whatever the
order of these steps, a tag is as good as a test: an instance that a descriptor
takes for its own by the tag has a plain value that the descriptor accepts as well
(`Session.Backed.is_tagged`).

The invariant behind it (`Session.Backed`) ties the tag of every instance to its
value. Construction provides it because its results are accepted (`canonical_check`),
and the two ways of making an instance without a check provide it because their
payloads are accepted by computation. A descriptor that bears the identity of a tag
is the tag, because the pool of all descriptors is coherent.
-/

import JsonShape.Pattern.Basic
import JsonShape.Proofs.Canonical
import JsonShape.Proofs.Identity

namespace JsonShape

/-- Lifting an outcome makes a failure, or a success that construction gives as well. -/
theorem Result.ofExcept_cases (outcome : Except String Json) :
    (∃ error, (ofExcept outcome).outcome = (err error).outcome) ∨
      ∃ value, (ok value).outcome = .ok (ofExcept outcome).outcome := by
  cases outcome with
  | error message => exact Or.inl ⟨.string message, rfl⟩
  | ok value =>
    unfold ofExcept
    cases built : (ok value).outcome with
    | error rejection =>
      simp only [built]
      exact Or.inl ⟨.string rejection.message, rfl⟩
    | ok made =>
      simp only [built]
      exact Or.inr ⟨value, built⟩

/-! ### Sessions -/

/-- What a caller holds: registries, types of its own, and the instances made so far; a union is
held as a type. The supply is what remains of the identities. -/
structure Session where
  supply : Supply
  registries : List Registry
  types : List Descriptor
  made : List Instance

namespace Session

/-- The session in which nothing has been made yet. -/
def start : Session := ⟨.full, [.empty, .standard], [], []⟩

/-- A descriptor that has come into being: a standard one, one that is held or registered, the tag
of an instance, or something inside one of these. -/
def Knows (session : Session) (type : Descriptor) : Prop :=
  ∃ whole, (whole ∈ standardPool ∨ whole ∈ session.types ∨
    (∃ made ∈ session.made, whole = made.descriptor) ∨
    ∃ registry ∈ session.registries, ∃ entry ∈ registry.entries, whole = entry.2.asType) ∧
    type.PartOf whole

theorem Knows.of_standard {session : Session} {type : Descriptor} (standard : type ∈ standardPool) :
    session.Knows type :=
  ⟨type, Or.inl standard, .self⟩

theorem Knows.of_held {session : Session} {type : Descriptor} (held : type ∈ session.types) :
    session.Knows type :=
  ⟨type, Or.inr (Or.inl held), .self⟩

theorem Knows.part {session : Session} {part type : Descriptor} (known : session.Knows type)
    (within : part.PartOf type) : session.Knows part := by
  obtain ⟨whole, origin, inside⟩ := known
  exact ⟨whole, origin, within.trans inside⟩

/-- The session with one more type. -/
def hold (session : Session) (type : Descriptor) (rest : Supply) : Session :=
  { session with supply := rest, types := type :: session.types }

/-- The session with one more registry. The one it came from stays, as a copy would. -/
def extend (session : Session) (registry : Registry) (rest : Supply) : Session :=
  { session with supply := rest, registries := registry :: session.registries }

/-- The session with one more instance. -/
def keep (session : Session) (made : Instance) : Session :=
  { session with made := made :: session.made }

/-- What a caller can do next. A step that fails leaves everything as it was and is no step. -/
inductive Step (engine : PatternEngine) (session : Session) : Session → Prop
  | hold {type : Descriptor} (known : session.Knows type) :
      Step engine session (session.hold type session.supply)
  | makeScalar (name : String) (predicate : Predicate) (normalizer : Option Normalizer) :
      Step engine session (session.hold (makeScalar name predicate normalizer session.supply).1
        (makeScalar name predicate normalizer session.supply).2)
  | makeRecord {name : String} {fields : FieldSpecs} {type : Descriptor} {rest : Supply}
      (refers : (FieldSpec.record fields).Over session.Knows)
      (done : makeRecord name fields session.supply = .ok (type, rest)) :
      Step engine session (session.hold type rest)
  | makeUnion {name : String} {payloads : FieldSpecs} {union : Union} {rest : Supply}
      (refers : (FieldSpec.record payloads).Over session.Knows)
      (done : makeUnion name payloads session.supply = .ok (union, rest)) :
      Step engine session (session.hold union.asType rest)
  | insertType {registry extended : Registry} {type : Descriptor}
      (held : registry ∈ session.registries) (known : session.Knows type)
      (done : registry.insertType type = .ok extended) :
      Step engine session (session.extend extended session.supply)
  | insertUnion {registry extended : Registry} {union : Union}
      (held : registry ∈ session.registries) (known : session.Knows union.asType)
      (done : registry.insertUnion union = .ok extended) :
      Step engine session (session.extend extended session.supply)
  | load {registry : Registry} {text : String} {loaded : Registry.Loaded}
      (held : registry ∈ session.registries)
      (done : registry.loadText engine text session.supply = .ok loaded) :
      Step engine session (session.extend loaded.registry loaded.supply)
  | construct {type : Descriptor} {raw : Json} {made : Instance} (known : session.Knows type)
      (done : (type.construct raw).outcome = .ok made) : Step engine session (session.keep made)
  | constructVariant {union : Union} {name : String} {raw : Json}
      {built : Traced (Except Rejection Instance)} {made : Instance}
      (known : session.Knows union.asType) (found : union.construct name raw = .ok built)
      (done : built.outcome = .ok made) : Step engine session (session.keep made)
  | just {raw : Json} {made : Instance} (done : (Maybe.just raw).outcome = .ok made) :
      Step engine session (session.keep made)
  | nothing : Step engine session (session.keep Maybe.nothing.outcome)
  | ok {raw : Json} {made : Instance} (done : (Result.ok raw).outcome = .ok made) :
      Step engine session (session.keep made)
  | err (error : Json) : Step engine session (session.keep (Result.err error).outcome)
  | ofExcept (outcome : Except String Json) :
      Step engine session (session.keep (Result.ofExcept outcome).outcome)

/-- The sessions that a caller can get to. -/
inductive Reachable (engine : PatternEngine) : Session → Prop
  | start : Reachable engine start
  | step {session next : Session} (before : Reachable engine session)
      (step : Step engine session next) : Reachable engine next

/-! ### The invariant -/

variable {engine : PatternEngine}

/-- All descriptors of the session are in a coherent pool, and every instance has a value that its
tag accepts. -/
structure Backed (session : Session) (pool : List Descriptor) : Prop where
  coherent : Coherent pool session.supply
  types : session.types ⊆ pool
  registries : ∀ registry ∈ session.registries, registry.Holds (· ∈ pool)
  made : ∀ made ∈ session.made,
    made.descriptor ∈ pool ∧ made.descriptor.accepts made.value = true

namespace Backed

variable {session : Session} {pool : List Descriptor}

theorem known (backed : session.Backed pool) {type : Descriptor} (known : session.Knows type) :
    type ∈ pool := by
  obtain ⟨whole, origin, part⟩ := known
  refine backed.coherent.part part ?_
  rcases origin with standard | held | ⟨made, member, rfl⟩ | ⟨registry, held, entry, member, rfl⟩
  · exact backed.coherent.standard standard
  · exact backed.types held
  · exact (backed.made made member).1
  · exact backed.registries registry held entry member

/-- A descriptor of a larger pool can be held. -/
theorem hold {larger : List Descriptor} {type : Descriptor} {rest : Supply}
    (backed : session.Backed pool) (enlarges : pool ⊆ larger) (coherent : Coherent larger rest)
    (member : type ∈ larger) : (session.hold type rest).Backed larger where
  coherent := coherent
  types := List.forall_mem_cons.mpr ⟨member, fun _ held => enlarges (backed.types held)⟩
  registries := fun registry held entry registered =>
    enlarges (backed.registries registry held entry registered)
  made := fun made old => (backed.made made old).imp_left (enlarges ·)

/-- A registry of descriptors from a larger pool can be added. -/
theorem extend {larger : List Descriptor} {registry : Registry} {rest : Supply}
    (backed : session.Backed pool) (enlarges : pool ⊆ larger) (coherent : Coherent larger rest)
    (holds : registry.Holds (· ∈ larger)) : (session.extend registry rest).Backed larger where
  coherent := coherent
  types := fun _ held => enlarges (backed.types held)
  registries := List.forall_mem_cons.mpr ⟨holds, fun registry held entry registered =>
    enlarges (backed.registries registry held entry registered)⟩
  made := fun made old => (backed.made made old).imp_left (enlarges ·)

/-- A registry can be added again with one more descriptor of the pool. -/
theorem insert {registry extended : Registry} {name : String} {entry : Entry}
    (backed : session.Backed pool) (held : registry ∈ session.registries)
    (member : entry.asType ∈ pool) (done : registry.insert name entry = .ok extended) :
    (session.extend extended session.supply).Backed pool := by
  obtain ⟨_, rfl⟩ := Registry.insert_eq_ok_iff.mp done
  exact backed.extend (List.Subset.refl _) backed.coherent
    ((backed.registries registry held).append name member)

/-- An instance can be kept if its tag is in the pool and accepts its value. -/
theorem keep {made : Instance} (backed : session.Backed pool) (tag : made.descriptor ∈ pool)
    (accepted : made.descriptor.accepts made.value = true) : (session.keep made).Backed pool where
  coherent := backed.coherent
  types := backed.types
  registries := backed.registries
  made := List.forall_mem_cons.mpr ⟨⟨tag, accepted⟩, backed.made⟩

/-- What a descriptor of the pool constructs can be kept. -/
theorem keep_constructed {type : Descriptor} {raw : Json} {made : Instance}
    (backed : session.Backed pool) (member : type ∈ pool)
    (done : (type.construct raw).outcome = .ok made) : (session.keep made).Backed pool := by
  obtain ⟨tag, checked⟩ := Descriptor.construct_eq_ok_iff.mp done
  have canonical := Descriptor.canonical_check (backed.coherent.distinct member) checked
  exact backed.keep (tag.symm ▸ member) (tag.symm ▸ canonical.accepts)

theorem keep_err (backed : session.Backed pool) (error : Json) :
    (session.keep (Result.err error).outcome).Backed pool :=
  backed.keep (backed.coherent.standard (by simp [standardPool, Result.err, tagged])) rfl

theorem keep_ofExcept (backed : session.Backed pool) (outcome : Except String Json) :
    (session.keep (Result.ofExcept outcome).outcome).Backed pool := by
  rcases Result.ofExcept_cases outcome with ⟨error, failed⟩ | ⟨value, built⟩
  · exact failed ▸ backed.keep_err error
  · exact backed.keep_constructed (backed.coherent.standard (by simp [standardPool])) built

end Backed

theorem backed_start : start.Backed standardPool where
  coherent := coherent_standardPool
  types := List.nil_subset _
  registries := by
    intro registry held entry member
    simp only [start, List.mem_cons, List.not_mem_nil, or_false] at held
    rcases held with rfl | rfl
    · cases member
    · exact Registry.standard_holds_pool entry member
  made := fun _ member => nomatch member

/-- No step breaks the tie between tags and values. -/
theorem Backed.step {session next : Session} {pool : List Descriptor}
    (backed : session.Backed pool) (step : Step engine session next) :
    ∃ larger, next.Backed larger := by
  have coherent := backed.coherent
  cases step with
  | hold known =>
    exact ⟨pool, backed.hold (List.Subset.refl _) coherent (backed.known known)⟩
  | makeScalar name predicate normalizer =>
    refine ⟨_ :: pool, backed.hold (List.subset_cons_self _ _) ?_ List.mem_cons_self⟩
    exact coherent.make rfl List.nodup_nil fun child direct => nomatch direct
  | makeRecord refers done =>
    obtain ⟨larger, enlarges, held, member⟩ :=
      (refers.mono fun _ => backed.known).joins pool _ _ _ _ (List.Subset.refl _) coherent done
    exact ⟨larger, backed.hold enlarges held member⟩
  | makeUnion refers done =>
    obtain ⟨larger, enlarges, held, member⟩ :=
      makeUnion_joins (refers.mono fun _ => backed.known) coherent done
    exact ⟨larger, backed.hold enlarges held member⟩
  | @insertType registry extended type held known done =>
    have member : (Entry.type type).asType ∈ pool := backed.known known
    exact ⟨pool, backed.insert held member done⟩
  | @insertUnion registry extended union held known done =>
    have member : (Entry.union union).asType ∈ pool := backed.known known
    exact ⟨pool, backed.insert held member done⟩
  | @load registry text loaded held done =>
    obtain ⟨larger, enlarges, heldLarger, holds⟩ :=
      Registry.loadText_joins (backed.registries registry held) coherent done
    exact ⟨larger, backed.extend enlarges heldLarger holds⟩
  | construct known done => exact ⟨pool, backed.keep_constructed (backed.known known) done⟩
  | @constructVariant union name raw built made known found done =>
    unfold Union.construct at found
    split at found
    · cases found
    · rename_i type variantFound
      obtain rfl := Except.ok.inj found
      have member := Table.mem_of_find? variantFound
      have inPool := coherent.closed _ (backed.known known) type (List.mem_map_of_mem member)
      exact ⟨pool, backed.keep_constructed inPool done⟩
  | just done =>
    exact ⟨pool, backed.keep_constructed (coherent.standard (by simp [standardPool])) done⟩
  | nothing =>
    exact ⟨pool, backed.keep
      (coherent.standard (by simp [standardPool, Maybe.nothing, tagged])) rfl⟩
  | ok done =>
    exact ⟨pool, backed.keep_constructed (coherent.standard (by simp [standardPool])) done⟩
  | err error => exact ⟨pool, backed.keep_err error⟩
  | ofExcept outcome => exact ⟨pool, backed.keep_ofExcept outcome⟩

/-- Every session that can be reached is backed. -/
theorem Reachable.backed {session : Session} (reachable : Reachable engine session) :
    ∃ pool, session.Backed pool := by
  induction reachable with
  | start => exact ⟨standardPool, backed_start⟩
  | step _ step inductionHypothesis =>
    obtain ⟨pool, backed⟩ := inductionHypothesis
    exact backed.step step

/-! ### Tags and tests -/

/-- A descriptor accepts the value of every instance that bears its identity. -/
theorem Backed.accepts_of_identity {session : Session} {pool : List Descriptor}
    (backed : session.Backed pool) {made : Instance} (member : made ∈ session.made)
    {type : Descriptor} (known : type ∈ pool)
    (same : made.descriptor.identity = type.identity) : type.accepts made.value = true := by
  obtain ⟨tag, accepted⟩ := backed.made made member
  exact backed.coherent.unique _ tag type known same ▸ accepted

theorem Backed.is_tagged {session : Session} {pool : List Descriptor}
    (backed : session.Backed pool) {made : Instance} (member : made ∈ session.made)
    {type : Descriptor} (known : type ∈ pool) :
    type.is (.tagged made) = type.accepts made.value := by
  have accepts : (decide (made.descriptor.identity = type.identity) ||
      type.variants.any fun variant =>
        decide (made.descriptor.identity = variant.2.identity)) = true →
      type.accepts made.value = true := by
    intro byTag
    rcases Bool.or_eq_true _ _ ▸ byTag with own | ofVariant
    · exact backed.accepts_of_identity member known (of_decide_eq_true own)
    · obtain ⟨variant, variantMember, same⟩ := List.any_eq_true.mp ofVariant
      cases type with
      | sum identity name variants =>
        have inPool := backed.coherent.closed _ known variant.2 (List.mem_map_of_mem variantMember)
        exact Descriptor.accepts_sum_iff.mpr ⟨variant, variantMember,
          backed.accepts_of_identity member inPool (of_decide_eq_true same)⟩
      | scalar | record | variant => cases variantMember
  show (_ || type.accepts made.value) = type.accepts made.value
  cases tested : type.accepts made.value with
  | true => exact Bool.or_true _
  | false =>
    rw [Bool.or_false]
    exact Bool.eq_false_iff.mpr fun byTag => absurd (accepts byTag) (by simp [tested])

/-- In every session that can be reached, a known descriptor or union says the same of an instance
and of its plain value. -/
theorem is_tagged_eq_is_raw (session : Session) (reachable : Reachable engine session)
    (made : Instance) (member : made ∈ session.made) :
    (∀ type, session.Knows type → type.is (.tagged made) = type.is (.raw made.value)) ∧
      ∀ union : Union, session.Knows union.asType →
        union.is (.tagged made) = union.is (.raw made.value) := by
  obtain ⟨pool, backed⟩ := reachable.backed
  exact ⟨fun type known => backed.is_tagged member (backed.known known),
    fun union known => backed.is_tagged member (backed.known known)⟩

/-- A caller makes a union, constructs through one of its variants, and asks the union, by the tag
and by the value. -/
theorem is_tagged_eq_is_raw_reading :
    let amount : Descriptor := .variant (.made 0) "Amount" Standard.number
    let remark : Descriptor := .variant (.made 1) "Remark" Standard.success
    let reading : Union := ⟨.made 2, "Reading", [("Amount", amount), ("Remark", remark)]⟩
    let made : Instance := ⟨remark, successPayload (.string "late")⟩
    let session : Session := (start.hold reading.asType ⟨3⟩).keep made
    Reachable Pattern.engine session ∧ made ∈ session.made ∧ session.Knows reading.asType ∧
      reading.is (.tagged made) = reading.is (.raw made.value) ∧
      amount.is (.tagged made) = amount.is (.raw made.value) := by
  intro amount remark reading made session
  have refers : (FieldSpec.record [("Amount", .primitive .number), ("Remark",
      .type Standard.success)]).Over start.Knows := by
    refine FieldSpec.over_record_iff.mpr ⟨by decide, List.forall_mem_cons.mpr
      ⟨.primitive .number, List.forall_mem_singleton.mpr (.type ?_)⟩⟩
    exact .of_standard (by simp [standardPool, Standard.all])
  have done : makeUnion "Reading" [("Amount", .primitive .number), ("Remark",
      .type Standard.success)] start.supply = .ok (reading, ⟨3⟩) := rfl
  have unionStep : Step Pattern.engine start (start.hold reading.asType ⟨3⟩) :=
    .makeUnion refers done
  have known : (start.hold reading.asType ⟨3⟩).Knows reading.asType := .of_held List.mem_cons_self
  have reached : reading.construct "Remark" (.string "late") =
      .ok (remark.construct (.string "late")) := rfl
  have variantStep : Step Pattern.engine (start.hold reading.asType ⟨3⟩) session :=
    .constructVariant known reached rfl
  have reachable : Reachable Pattern.engine session := .step (.step .start unionStep) variantStep
  have knows : session.Knows reading.asType := .of_held List.mem_cons_self
  have knowsAmount : session.Knows amount := knows.part (.inside List.mem_cons_self .self)
  have equal := is_tagged_eq_is_raw session reachable made List.mem_cons_self
  exact ⟨reachable, List.mem_cons_self, knows, equal.2 reading knows, equal.1 amount knowsAmount⟩

end Session

end JsonShape
