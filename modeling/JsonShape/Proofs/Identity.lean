/-
This file shows that identities tell descriptors apart: of all descriptors that have
come into being, no two different ones share an identity. The descriptors are
gathered in a pool that holds the parts of each of its members, and the pool grows
by one descriptor at a time, with an identity that is drawn from the supply
(`Coherent.make`). Resolving fields, making variants and unions, and declaring what
a text says are nothing but such steps, so each of them leaves a larger pool that is
coherent again.
-/

import JsonShape.Proofs.Loadable
import Mathlib.Data.List.Nodup

namespace JsonShape

/-! ### The standard pool -/

/-- The descriptors that are there from the beginning. -/
def standardPool : List Descriptor :=
  Standard.all ++ [Maybe.justType, Maybe.nothingType, Maybe.union.asType, Result.okType,
    Result.errType, Result.union.asType]

/-- A pool of descriptors with everything they are built from, in which an identity occurs once
and no turn that is still to be given out occurs at all. -/
structure Coherent (known : List Descriptor) (supply : Supply) : Prop where
  standard : standardPool ⊆ known
  closed : ∀ type ∈ known, ∀ child ∈ type.children, child ∈ known
  names : ∀ type ∈ known, (Table.keys type.named).Nodup
  unique : ∀ first ∈ known, ∀ second ∈ known, first.identity = second.identity → first = second
  drawn : ∀ type ∈ known, ∀ turn, type.identity = .made turn → turn < supply.next

namespace Coherent

variable {known : List Descriptor} {supply : Supply}

/-- Everything inside a descriptor of the pool is in the pool. -/
theorem part (coherent : Coherent known supply) {inner type : Descriptor}
    (within : inner.PartOf type) (member : type ∈ known) : inner ∈ known :=
  within.inherits coherent.closed member

theorem distinct (coherent : Coherent known supply) {type : Descriptor} (member : type ∈ known) :
    type.Distinct :=
  fun part within => coherent.names part (coherent.part within member)

/-- A descriptor that is built from descriptors of the pool under a drawn identity joins the
pool. -/
theorem make (coherent : Coherent known supply) {type : Descriptor}
    (fresh : type.identity = supply.draw.1) (names : (Table.keys type.named).Nodup)
    (parts : ∀ child ∈ type.children, child ∈ known) :
    Coherent (type :: known) supply.draw.2 := by
  -- A member of the old pool bears an earlier turn or none, so it is not confused with the new one.
  have apart : ∀ other ∈ known, other.identity ≠ type.identity := by
    intro other member same
    exact Nat.lt_irrefl _ (coherent.drawn other member supply.next (same.trans fresh))
  refine ⟨fun other member => List.mem_cons_of_mem _ (coherent.standard member), ?_, ?_, ?_, ?_⟩
  · intro other member child direct
    rcases List.mem_cons.mp member with rfl | old
    · exact List.mem_cons_of_mem _ (parts child direct)
    · exact List.mem_cons_of_mem _ (coherent.closed other old child direct)
  · exact List.forall_mem_cons.mpr ⟨names, coherent.names⟩
  · intro first firstMember second secondMember same
    rcases List.mem_cons.mp firstMember with rfl | firstOld <;>
      rcases List.mem_cons.mp secondMember with rfl | secondOld
    · rfl
    · exact absurd same.symm (apart second secondOld)
    · exact absurd same (apart first firstOld)
    · exact coherent.unique first firstOld second secondOld same
  · intro other member turn bears
    rcases List.mem_cons.mp member with rfl | old
    · have equal : supply.next = turn := Identity.made.inj (fresh.symm.trans bears)
      exact equal ▸ Nat.lt_succ_self supply.next
    · exact Nat.lt_succ_of_lt (coherent.drawn other old turn bears)

end Coherent

/-- The standard variants and unions are built from standard descriptors. -/
theorem standardPool_children {type child : Descriptor} (member : type ∈ standardPool)
    (direct : child ∈ type.children) : child ∈ standardPool := by
  rcases List.mem_append.mp member with scalar | built
  · obtain ⟨_, _, _, _, rfl⟩ := Standard.exists_scalar_of_mem_all scalar
    cases direct
  · simp only [List.mem_cons, List.not_mem_nil, or_false] at built
    rcases built with rfl | rfl | rfl | rfl | rfl | rfl
    · exact List.mem_singleton.mp direct ▸ by simp [standardPool, Standard.all]
    · exact List.mem_singleton.mp direct ▸ by simp [standardPool, Standard.all]
    · change child ∈ [Maybe.justType, Maybe.nothingType] at direct
      simp only [List.mem_cons, List.not_mem_nil, or_false] at direct
      rcases direct with rfl | rfl <;> simp [standardPool]
    · exact List.mem_singleton.mp direct ▸ by simp [standardPool, Standard.all]
    · exact List.mem_singleton.mp direct ▸ by simp [standardPool, Standard.all]
    · change child ∈ [Result.okType, Result.errType] at direct
      simp only [List.mem_cons, List.not_mem_nil, or_false] at direct
      rcases direct with rfl | rfl <;> simp [standardPool]

theorem standardPool_identity {type : Descriptor} (member : type ∈ standardPool) :
    ∃ name, type.identity = .standard name := by
  rcases List.mem_append.mp member with scalar | built
  · obtain ⟨name, _, _, _, rfl⟩ := Standard.exists_scalar_of_mem_all scalar
    exact ⟨name, rfl⟩
  · simp only [List.mem_cons, List.not_mem_nil, or_false] at built
    rcases built with rfl | rfl | rfl | rfl | rfl | rfl <;> exact ⟨_, rfl⟩

theorem coherent_standardPool : Coherent standardPool .full := by
  have identities : (standardPool.map Descriptor.identity).Nodup := by decide
  refine ⟨List.Subset.refl _, fun _ member _ => standardPool_children member, ?_, ?_, ?_⟩
  · have names : ∀ keys ∈ standardPool.map fun type => Table.keys type.named, keys.Nodup := by
      decide
    exact fun type member => names _ (List.mem_map_of_mem member)
  · exact fun first firstMember second secondMember =>
      List.inj_on_of_nodup_map identities firstMember secondMember
  · intro type member turn bears
    obtain ⟨name, known⟩ := standardPool_identity member
    rw [known] at bears
    cases bears

theorem Registry.standard_holds_pool : Registry.standard.Holds (· ∈ standardPool) := by
  refine standard_holds (fun _ known => List.mem_append_left _ known) ?_ ?_
  · simp [standardPool]
  · simp [standardPool]

/-! ### Resolving -/

/-- Resolving the field from any pool that holds the known descriptors adds what it makes. -/
def Joins (known : List Descriptor) (spec : FieldSpec) : Prop :=
  ∀ pool name supply type rest, known ⊆ pool → Coherent pool supply →
    spec.resolve name supply = .ok (type, rest) →
    ∃ larger, pool ⊆ larger ∧ Coherent larger rest ∧ type ∈ larger

/-- Fields that join one by one join together. -/
theorem resolveEach_joins {known pool : List Descriptor} {owner : String}
    {fields : List (String × FieldSpec)} {supply rest : Supply}
    {types : List (String × Descriptor)} (each : ∀ field ∈ fields, Joins known field.2)
    (includes : known ⊆ pool) (coherent : Coherent pool supply)
    (resolved : resolveEach owner fields supply = .ok (types, rest)) :
    ∃ larger, pool ⊆ larger ∧ Coherent larger rest ∧ ∀ entry ∈ types, entry.2 ∈ larger := by
  induction fields generalizing pool supply types with
  | nil =>
    simp only [resolveEach, Except.ok.injEq, Prod.mk.injEq] at resolved
    obtain ⟨rfl, rfl⟩ := resolved
    exact ⟨pool, List.Subset.refl _, coherent, List.forall_mem_nil _⟩
  | cons field fields inductionHypothesis =>
    obtain ⟨first, remaining⟩ := List.forall_mem_cons.mp each
    obtain ⟨_, type, middle, others, head, tail, rfl⟩ := resolveEach_cons_eq_ok_iff.mp resolved
    obtain ⟨wider, widens, heldWider, member⟩ := first pool _ _ _ _ includes coherent head
    obtain ⟨larger, enlarges, held, members⟩ :=
      inductionHypothesis remaining (List.Subset.trans includes widens) heldWider tail
    exact ⟨larger, List.Subset.trans widens enlarges, held,
      List.forall_mem_cons.mpr ⟨enlarges member, members⟩⟩

/-- A declared field over known descriptors joins. -/
theorem FieldSpec.Over.joins {known : List Descriptor} {spec : FieldSpec}
    (refers : spec.Over (· ∈ known)) : Joins known spec := by
  induction refers with
  | type holds =>
    intro pool name supply type rest includes coherent resolved
    simp only [FieldSpec.resolve, Except.ok.injEq, Prod.mk.injEq] at resolved
    obtain ⟨rfl, rfl⟩ := resolved
    exact ⟨pool, List.Subset.refl _, coherent, includes holds⟩
  | primitive kind =>
    intro pool name supply type rest includes coherent resolved
    simp only [FieldSpec.resolve, Except.ok.injEq, Prod.mk.injEq] at resolved
    obtain ⟨rfl, rfl⟩ := resolved
    exact ⟨pool, List.Subset.refl _, coherent,
      coherent.standard (List.mem_append_left _ kind.descriptor_mem_all)⟩
  | record names _ inductionHypothesis =>
    intro pool name supply type rest includes coherent resolved
    obtain ⟨_, types, middle, each, rfl, rfl⟩ := resolve_record_eq_ok_iff.mp resolved
    obtain ⟨larger, enlarges, held, members⟩ :=
      resolveEach_joins inductionHypothesis includes coherent each
    refine ⟨_ :: larger, fun _ member => List.mem_cons_of_mem _ (enlarges member), ?_,
      List.mem_cons_self⟩
    refine held.make rfl (resolveEach_keys each ▸ names) fun child direct => ?_
    obtain ⟨entry, member, rfl⟩ := List.mem_map.mp direct
    exact members entry member

/-! ### Unions -/

/-- The variants that are made of payloads in the pool join it. -/
theorem makeVariants_joins {pool : List Descriptor} {payloads : List (String × Descriptor)}
    {supply : Supply} (known : ∀ payload ∈ payloads, payload.2 ∈ pool)
    (coherent : Coherent pool supply) :
    ∃ larger, pool ⊆ larger ∧ Coherent larger (makeVariants payloads supply).2 ∧
      ∀ variant ∈ (makeVariants payloads supply).1, variant.2 ∈ larger := by
  induction payloads generalizing pool supply with
  | nil => exact ⟨pool, List.Subset.refl _, coherent, List.forall_mem_nil _⟩
  | cons payload rest inductionHypothesis =>
    obtain ⟨first, others⟩ := List.forall_mem_cons.mp known
    have made : Coherent (.variant supply.draw.1 payload.1 payload.2 :: pool) supply.draw.2 :=
      coherent.make rfl List.nodup_nil fun child direct => List.mem_singleton.mp direct ▸ first
    obtain ⟨larger, enlarges, held, members⟩ := inductionHypothesis
      (fun entry member => List.mem_cons_of_mem _ (others entry member)) made
    exact ⟨larger, fun _ member => enlarges (List.mem_cons_of_mem _ member), held,
      List.forall_mem_cons.mpr ⟨enlarges List.mem_cons_self, members⟩⟩

/-- A union of payloads over known descriptors joins the pool with its variants. -/
theorem makeUnion_joins {pool : List Descriptor} {name : String} {payloads : FieldSpecs}
    {supply rest : Supply} {union : Union}
    (refers : (FieldSpec.record payloads).Over (· ∈ pool)) (coherent : Coherent pool supply)
    (made : makeUnion name payloads supply = .ok (union, rest)) :
    ∃ larger, pool ⊆ larger ∧ Coherent larger rest ∧ union.asType ∈ larger := by
  obtain ⟨names, each⟩ := FieldSpec.over_record_iff.mp refers
  obtain ⟨_, _, types, middle, resolved, rfl, rfl⟩ := makeUnion_eq_ok_iff.mp made
  obtain ⟨wider, widens, heldWider, payloadsKnown⟩ := resolveEach_joins
    (fun field member => (each field member).joins) (List.Subset.refl _) coherent resolved
  obtain ⟨larger, enlarges, held, variantsKnown⟩ := makeVariants_joins payloadsKnown heldWider
  refine ⟨_ :: larger, fun _ member => List.mem_cons_of_mem _ (enlarges (widens member)), ?_,
    List.mem_cons_self⟩
  have variants := makeVariants_aligned types middle
  refine held.make rfl (variants.keys ▸ resolveEach_keys resolved ▸ names) fun child direct => ?_
  obtain ⟨entry, member, rfl⟩ := List.mem_map.mp direct
  exact variantsKnown entry member

/-! ### Declarations -/

variable {engine : PatternEngine}

/-- What is declared over a registry of known descriptors joins the pool. -/
theorem Registry.Declared.joins {registry : Registry} {pool : List Descriptor} {name : String}
    {supply rest : Supply} {declaration : Declaration} {entry : Entry}
    (distinct : declaration.Distinct) (holds : registry.Holds (· ∈ pool))
    (coherent : Coherent pool supply)
    (declared : Declared engine registry name supply rest declaration entry) :
    ∃ larger, pool ⊆ larger ∧ Coherent larger rest ∧ entry.asType ∈ larger := by
  cases declared with
  | data read made =>
    exact (fieldSpecs_over holds distinct read).joins pool _ _ _ _ (List.Subset.refl _) coherent
      made
  | union read made => exact makeUnion_joins (fieldSpecs_over holds distinct read) coherent made
  | refine made =>
    obtain ⟨base, pattern, _, _, _, rfl, rfl⟩ := refine_eq_ok_iff.mp made
    refine ⟨_ :: pool, List.subset_cons_self _ _, ?_, List.mem_cons_self⟩
    exact coherent.make rfl List.nodup_nil fun child direct => nomatch direct

/-- Loading a text adds to the pool what the text declares. -/
theorem Registry.loadText_joins {registry : Registry} {pool : List Descriptor} {text : String}
    {supply : Supply} {loaded : Loaded} (holds : registry.Holds (· ∈ pool))
    (coherent : Coherent pool supply) (done : registry.loadText engine text supply = .ok loaded) :
    ∃ larger, pool ⊆ larger ∧ Coherent larger loaded.supply ∧
      loaded.registry.Holds (· ∈ larger) := by
  refine loadText_invariant (fun registry supply => ∃ larger, pool ⊆ larger ∧
    Coherent larger supply ∧ registry.Holds (· ∈ larger)) ?_
    ⟨pool, List.Subset.refl _, coherent, holds⟩ done
  rintro name declaration registry supply extended rest distinct ⟨wider, widens, held, known⟩
    declared
  obtain ⟨entry, made, _, rfl⟩ := declare_eq_ok_iff.mp declared
  obtain ⟨larger, enlarges, heldLarger, member⟩ := made.joins distinct known held
  have includes : ∀ entry ∈ registry.entries, entry.2.asType ∈ larger :=
    fun entry registered => enlarges (known entry registered)
  exact ⟨larger, List.Subset.trans widens enlarges, heldLarger, Holds.append includes name member⟩

end JsonShape
