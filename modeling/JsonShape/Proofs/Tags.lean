/-
This file shows that a tag decides. What is constructed through a variant of a union
is dispatched to this very variant, also where an earlier variant accepts the value as
well or has the same payload (`Session.tag_decides`).

A tag names its variant because no two variants share an identity, neither within one
union nor across two. Within a union this is the coherence of the pool, together with
the fact that a variant bears its own name. Across unions it is an argument about turns
(`Coherent.union_eq_of_variant`). A union takes a turn of its own right behind those of its
variants, so the turns of a union are an interval that ends with the union. If two such
intervals met without ending together, the one that ends first would end among the
variants of the other, and a union would be a variant.
-/

import JsonShape.Pattern.Basic
import JsonShape.Proofs.Dispatch
import JsonShape.Proofs.Obtainable

namespace JsonShape

variable {engine : PatternEngine}

/-! ### The variants of a union -/

/-- A union is one of the two standard ones, or it was made right after its variants. -/
theorem Descriptor.Obtainable.union_cases {union : Union}
    (obtainable : union.asType.Obtainable engine) :
    (union = Maybe.union ∨ union = Result.union) ∨
      ∃ payloads supply, union.identity = (makeVariants payloads supply).2.draw.1 ∧
        union.variants = (makeVariants payloads supply).1 := by
  obtain ⟨identity, name, variants⟩ := union
  change (Descriptor.sum identity name variants).Obtainable engine at obtainable
  cases obtainable with
  | standard member =>
    left
    rcases List.mem_append.mp member with scalar | built
    · obtain ⟨_, _, _, _, equal⟩ := Standard.exists_scalar_of_mem_all scalar
      cases equal
    · simp only [List.mem_cons, List.not_mem_nil, or_false] at built
      rcases built with equal | equal | equal | equal | equal | equal
      · cases equal
      · cases equal
      · cases equal
        exact Or.inl rfl
      · cases equal
      · cases equal
      · cases equal
        exact Or.inr rfl
  | union supply => exact Or.inr ⟨_, supply, rfl, rfl⟩

/-- The variants of a union are variant descriptors, each under its own name. -/
theorem Descriptor.Obtainable.exists_variant {union : Union}
    (obtainable : union.asType.Obtainable engine) {variant : String × Descriptor}
    (member : variant ∈ union.variants) :
    ∃ identity payload, variant.2 = .variant identity variant.1 payload := by
  rcases obtainable.union_cases with (rfl | rfl) | ⟨payloads, supply, _, made⟩
  · simp only [Maybe.union, List.mem_cons, List.not_mem_nil, or_false] at member
    rcases member with rfl | rfl <;> exact ⟨_, _, rfl⟩
  · simp only [Result.union, List.mem_cons, List.not_mem_nil, or_false] at member
    rcases member with rfl | rfl <;> exact ⟨_, _, rfl⟩
  · rw [made] at member
    obtain ⟨payload, _, identity, equal⟩ :=
      (makeVariants_aligned payloads supply).exists_first member
    exact ⟨identity, payload, equal⟩

/-- The identity of a variant of a made union is a turn. -/
theorem exists_turn_of_variant {payloads : List (String × Descriptor)} {supply : Supply}
    {variant : String × Descriptor} (member : variant ∈ (makeVariants payloads supply).1) :
    ∃ turn, variant.2.identity = .made turn ∧ supply.next ≤ turn ∧
      turn < supply.next + payloads.length :=
  (makeVariants_turns payloads supply _).mp ⟨variant, member, rfl⟩

/-- The identities of the variants of the two standard unions are no turns. -/
theorem standard_identity_of_variant {union : Union}
    (standard : union = Maybe.union ∨ union = Result.union) {variant : String × Descriptor}
    (member : variant ∈ union.variants) : ∃ name, variant.2.identity = .standard name := by
  rcases standard with rfl | rfl
  · simp only [Maybe.union, List.mem_cons, List.not_mem_nil, or_false] at member
    rcases member with rfl | rfl <;> exact ⟨_, rfl⟩
  · simp only [Result.union, List.mem_cons, List.not_mem_nil, or_false] at member
    rcases member with rfl | rfl <;> exact ⟨_, rfl⟩

namespace Coherent

variable {pool : List Descriptor} {supply : Supply} {first second : Union}

theorem union_eq_of_identity (coherent : Coherent pool supply) (firstKnown : first.asType ∈ pool)
    (secondKnown : second.asType ∈ pool) (same : first.identity = second.identity) :
    first = second := by
  have equal := coherent.unique _ firstKnown _ secondKnown same
  obtain ⟨_, _, _⟩ := first
  obtain ⟨_, _, _⟩ := second
  cases equal
  rfl

/-- A union is no variant, so its identity is not among those of the variants of a union. -/
theorem variant_identity_ne (coherent : Coherent pool supply) (firstKnown : first.asType ∈ pool)
    (secondKnown : second.asType ∈ pool) (obtainable : second.asType.Obtainable engine)
    {variant : String × Descriptor} (member : variant ∈ second.variants) :
    variant.2.identity ≠ first.identity := by
  intro same
  have inPool := coherent.closed _ secondKnown variant.2 (List.mem_map_of_mem member)
  have equal : variant.2 = first.asType := coherent.unique _ inPool _ firstKnown same
  obtain ⟨_, _, form⟩ := obtainable.exists_variant member
  cases form.symm.trans equal

/-- Two made unions that share a turn among their variants end with the same turn. -/
theorem le_of_turn (coherent : Coherent pool supply) (firstKnown : first.asType ∈ pool)
    (secondKnown : second.asType ∈ pool) (obtainable : second.asType.Obtainable engine)
    {payloads others : List (String × Descriptor)} {start otherStart : Supply}
    (identity : first.identity = (makeVariants payloads start).2.draw.1)
    (variants : second.variants = (makeVariants others otherStart).1) {turn : Nat}
    (below : turn < start.next + payloads.length) (least : otherStart.next ≤ turn) :
    otherStart.next + others.length ≤ start.next + payloads.length := by
  by_contra later
  -- The first union would have come about among the variants of the second one.
  have among : ∃ variant ∈ second.variants, variant.2.identity = first.identity := by
    rw [variants, identity, makeVariants_turns]
    refine ⟨_, rfl, ?_⟩
    rw [makeVariants_next]
    omega
  obtain ⟨variant, member, same⟩ := among
  exact coherent.variant_identity_ne firstKnown secondKnown obtainable member same

/-- Two unions with variants of one identity are the same union. -/
theorem union_eq_of_variant (coherent : Coherent pool supply) (firstKnown : first.asType ∈ pool)
    (secondKnown : second.asType ∈ pool) (firstObtainable : first.asType.Obtainable engine)
    (secondObtainable : second.asType.Obtainable engine) {variant other : String × Descriptor}
    (member : variant ∈ first.variants) (otherMember : other ∈ second.variants)
    (same : variant.2.identity = other.2.identity) : first = second := by
  have standardApart : ∀ variant ∈ Maybe.union.variants, ∀ other ∈ Result.union.variants,
      variant.2.identity ≠ other.2.identity := by decide
  rcases firstObtainable.union_cases with standard | ⟨payloads, start, identity, variants⟩ <;>
    rcases secondObtainable.union_cases with
      otherStandard | ⟨others, otherStart, otherIdentity, otherVariants⟩
  · rcases standard with rfl | rfl <;> rcases otherStandard with rfl | rfl
    · rfl
    · exact absurd same (standardApart variant member other otherMember)
    · exact absurd same.symm (standardApart other otherMember variant member)
    · rfl
  · obtain ⟨name, bears⟩ := standard_identity_of_variant standard member
    obtain ⟨turn, otherBears, _⟩ := exists_turn_of_variant (otherVariants ▸ otherMember)
    cases bears.symm.trans (same.trans otherBears)
  · obtain ⟨turn, bears, _⟩ := exists_turn_of_variant (variants ▸ member)
    obtain ⟨name, otherBears⟩ := standard_identity_of_variant otherStandard otherMember
    cases bears.symm.trans (same.trans otherBears)
  · obtain ⟨turn, bears, least, below⟩ := exists_turn_of_variant (variants ▸ member)
    obtain ⟨otherTurn, otherBears, otherLeast, otherBelow⟩ :=
      exists_turn_of_variant (otherVariants ▸ otherMember)
    obtain rfl : turn = otherTurn := Identity.made.inj (bears.symm.trans (same.trans otherBears))
    have upper := coherent.le_of_turn firstKnown secondKnown secondObtainable identity
      otherVariants below otherLeast
    have lower := coherent.le_of_turn secondKnown firstKnown firstObtainable otherIdentity
      variants otherBelow least
    refine coherent.union_eq_of_identity firstKnown secondKnown ?_
    rw [identity, otherIdentity]
    show Identity.made (makeVariants payloads start).2.next =
      .made (makeVariants others otherStart).2.next
    rw [makeVariants_next, makeVariants_next, Nat.le_antisymm lower upper]

/-- Two variants of unions, be it one union or two, are the same if they have the same identity. -/
theorem variant_eq_of_identity (coherent : Coherent pool supply)
    (firstKnown : first.asType ∈ pool) (secondKnown : second.asType ∈ pool)
    (firstObtainable : first.asType.Obtainable engine)
    (secondObtainable : second.asType.Obtainable engine) {variant other : String × Descriptor}
    (member : variant ∈ first.variants) (otherMember : other ∈ second.variants)
    (same : variant.2.identity = other.2.identity) :
    variant = other := by
  have inPool := coherent.closed _ firstKnown variant.2 (List.mem_map_of_mem member)
  have otherInPool := coherent.closed _ secondKnown other.2 (List.mem_map_of_mem otherMember)
  have equal := coherent.unique _ inPool _ otherInPool same
  obtain ⟨identity, payload, form⟩ := firstObtainable.exists_variant member
  obtain ⟨otherIdentity, otherPayload, otherForm⟩ := secondObtainable.exists_variant otherMember
  have forms : Descriptor.variant identity variant.1 payload =
      .variant otherIdentity other.1 otherPayload := form.symm.trans (equal.trans otherForm)
  have names : variant.1 = other.1 := congrArg Descriptor.name forms
  exact Prod.ext names equal

end Coherent

/-! ### Dispatch by the tag -/

/-- An instance with the identity of a variant that no other variant shares is dispatched to it. -/
theorem Union.variantOf?_of_variant {union : Union} {variant : String × Descriptor}
    (member : variant ∈ union.variants)
    (alone : ∀ other ∈ union.variants, other.2.identity = variant.2.identity → other = variant)
    {made : Instance} (tag : made.descriptor = variant.2) :
    union.variantOf? (.tagged made) = some variant.1 := by
  have found : union.variantOfTag? made.descriptor.identity = some variant.1 := by
    rw [tag]
    cases search : union.variantOfTag? variant.2.identity with
    | none =>
      rw [variantOfTag?, Option.map_eq_none_iff, List.find?_eq_none] at search
      exact absurd (decide_eq_true rfl) (search variant member)
    | some name =>
      obtain ⟨other, otherMember, same, rfl⟩ := exists_variant_of_tag search
      rw [alone other otherMember same]
  unfold variantOf?
  have bound : (Subject.tagged made).tag?.bind union.variantOfTag? = some variant.1 := found
  rw [bound]

namespace Session

/-- What is constructed through a variant of a union is dispatched to that variant: its name is what
the union answers for the instance, the handler for that name is the one that is applied to the
plain value, and the variant is among those that accept the plain value. A name of which the union
has no variant is refused. No variant of the union has the identity of a variant of another union,
or of another variant of its own. -/
theorem tag_decides (session : Session) (reachable : Reachable engine session) (union : Union)
    (known : session.Knows union.asType) :
    (∀ name ∈ union.variantNames, ∀ raw, ∃ built, union.construct name raw = .ok built ∧
        ∀ made, built.outcome = .ok made →
          union.variantOf? (.tagged made) = some name ∧
          (∀ (Result : Type) (handlers : Table (Json → Result)) (handler : Json → Result),
            Table.find? handlers name = some handler →
              union.case (.tagged made) handlers = .ok (handler made.value)) ∧
          name ∈ union.matching made.value) ∧
      (∀ name, name ∉ union.variantNames → ∀ raw,
        union.construct name raw = .error (.unknownVariant union.name name)) ∧
      ∀ other : Union, session.Knows other.asType → ∀ first ∈ union.variants,
        ∀ second ∈ other.variants, first.2.identity = second.2.identity →
          union = other ∧ first = second := by
  obtain ⟨pool, backed⟩ := reachable.backed
  have coherent := backed.coherent
  have inPool := backed.known known
  have obtainable := reachable.obtainable known
  refine ⟨?_, ?_, ?_⟩
  · intro name named raw
    obtain ⟨type, found⟩ := Table.exists_find?_of_mem_keys named
    have member := Table.mem_of_find? found
    refine ⟨_, Union.construct_eq_ok_iff.mpr ⟨type, found, rfl⟩, fun made done => ?_⟩
    have distinct := coherent.distinct (coherent.part (.variant member) inPool)
    obtain ⟨tag, checked⟩ := Descriptor.construct_eq_ok_iff.mp done
    have accepted := (Descriptor.canonical_check distinct checked).accepts
    have dispatched : union.variantOf? (.tagged made) = some name :=
      Union.variantOf?_of_variant member (fun other otherMember same =>
        coherent.variant_eq_of_identity inPool inPool obtainable obtainable otherMember member
          same) tag
    refine ⟨dispatched, fun Result handlers handler arm => ?_, ?_⟩
    · exact Union.case_eq_ok_iff.mpr ⟨name, handler, dispatched, arm, rfl⟩
    · exact Union.mem_matching_iff.mpr ⟨_, member, accepted, rfl⟩
  · intro name unnamed raw
    have absent : Table.find? union.variants name = none :=
      (Table.find?_eq_none_iff _ _).mpr unnamed
    simp only [Union.construct, Union.variant?, absent]
  · intro other otherKnown first member second otherMember same
    have otherInPool := backed.known otherKnown
    have otherObtainable := reachable.obtainable otherKnown
    exact ⟨coherent.union_eq_of_variant inPool otherInPool obtainable otherObtainable member
        otherMember same,
      coherent.variant_eq_of_identity inPool otherInPool obtainable otherObtainable member
        otherMember same⟩

/-- Of two variants with one payload, the second one takes the number that was constructed through
it, although the bare number goes to the first. -/
theorem tag_decides_amount :
    let whole : Descriptor := .variant (.made 0) "Whole" Standard.number
    let rest : Descriptor := .variant (.made 1) "Rest" Standard.number
    let amount : Union := ⟨.made 2, "Amount", [("Whole", whole), ("Rest", rest)]⟩
    let session : Session := start.hold amount.asType ⟨3⟩
    let zero : Json := .number (.float (.zero false))
    let arms : Table (Json → String) :=
      [("Whole", fun _ => "whole"), ("Rest", fun value => "rest " ++ value.text)]
    Reachable Pattern.engine session ∧ session.Knows amount.asType ∧ "Rest" ∈ amount.variantNames ∧
      amount.variantOf? (.raw zero) = some "Whole" ∧
      (∃ built made, amount.construct "Rest" zero = .ok built ∧ built.outcome = .ok made ∧
        made.value = zero ∧ amount.variantOf? (.tagged made) = some "Rest" ∧
        amount.case (.tagged made) arms = .ok "rest 0.0") ∧
      amount.construct "Half" zero = .error (.unknownVariant "Amount" "Half") ∧
      session.Knows Maybe.union.asType ∧ whole.identity ≠ Maybe.justType.identity := by
  intro whole rest amount session zero arms
  have refers : (FieldSpec.record [("Whole", .primitive .number), ("Rest",
      .primitive .number)]).Over start.Knows :=
    FieldSpec.over_record_iff.mpr ⟨by decide, List.forall_mem_cons.mpr
      ⟨.primitive .number, List.forall_mem_singleton.mpr (.primitive .number)⟩⟩
  have done : makeUnion "Amount" [("Whole", .primitive .number), ("Rest", .primitive .number)]
      start.supply = .ok (amount, ⟨3⟩) := rfl
  have reachable : Reachable Pattern.engine session := .step .start (.makeUnion refers done)
  have known : session.Knows amount.asType := .of_held List.mem_cons_self
  have knowsMaybe : session.Knows Maybe.union.asType := .of_standard (by simp [standardPool])
  obtain ⟨decides, refuses, apart⟩ := tag_decides session reachable amount known
  have named : "Rest" ∈ amount.variantNames := List.mem_cons_of_mem _ List.mem_cons_self
  obtain ⟨built, reached, dispatched⟩ := decides "Rest" named zero
  have through : amount.construct "Rest" zero = .ok (rest.construct zero) := rfl
  obtain rfl : rest.construct zero = built := Except.ok.inj (through.symm.trans reached)
  have constructed : (rest.construct zero).outcome = .ok ⟨rest, zero⟩ := rfl
  obtain ⟨byTag, handled, _⟩ := dispatched ⟨rest, zero⟩ constructed
  refine ⟨reachable, known, named, rfl, ⟨_, _, reached, constructed, rfl, byTag, ?_⟩, ?_,
    knowsMaybe, fun same => ?_⟩
  · exact handled String arms _ rfl
  · exact refuses "Half" (by decide) zero
  · obtain ⟨equal, _⟩ := apart Maybe.union knowsMaybe ("Whole", whole) List.mem_cons_self
      ("Just", Maybe.justType) List.mem_cons_self same
    exact absurd (congrArg Union.name equal) (by decide)

end Session

end JsonShape
