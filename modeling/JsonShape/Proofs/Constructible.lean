/-
This file compares membership with construction. Membership looks at a value as it is,
whereas construction normalizes every scalar first, and so the two could drift apart.
They do not as long as each normalizer takes members to members
(`Descriptor.KeepsMembers`): every member is then constructible
(`exists_check_of_accepts`), and a union constructs exactly what one of its variants
constructs (`Union.exists_construct_iff`).

The condition holds of everything that definition files can produce. Refinements carry
no normalizer at all, and those of the standard types turn a member into a member, if
not every value.
-/

import JsonShape.Pattern.Basic
import JsonShape.Proofs.Canonical
import JsonShape.Proofs.Loadable

namespace JsonShape

namespace Descriptor

/-- The normalizer, if the descriptor is a scalar that has one, takes members to members. -/
def NormalizesMembers : Descriptor → Prop
  | scalar _ _ predicate (some normalize) _ =>
      ∀ value, predicate value = true → predicate (normalize value) = true
  | _ => True

/-- All normalizers inside the descriptor take members to members. -/
def KeepsMembers (type : Descriptor) : Prop :=
  type.Throughout NormalizesMembers

theorem KeepsMembers.part {part type : Descriptor} (keeps : type.KeepsMembers)
    (within : PartOf part type) : part.KeepsMembers :=
  Throughout.part keeps within

/-- A scalar accepts a member that it has normalized. -/
theorem KeepsMembers.normalized {identity : Identity} {name : String} {predicate : Predicate}
    {normalizer : Option Normalizer} {schema : Option Json}
    (keeps : (scalar identity name predicate normalizer schema).KeepsMembers) {value : Json}
    (accepted : predicate value = true) : predicate (normalized normalizer value) = true := by
  have here : NormalizesMembers (scalar identity name predicate normalizer schema) :=
    Throughout.here keeps
  cases normalizer with
  | none => exact accepted
  | some normalize => exact here value accepted

/-! ### Members can be constructed -/

/-- A member passes the checks of construction. -/
theorem exists_check_of_accepts {type : Descriptor} (distinct : type.Distinct)
    (keeps : type.KeepsMembers) {value : Json} (accepted : type.accepts value = true) :
    ∃ built, (type.check value).outcome = .ok built := by
  induction type generalizing value with
  | scalar identity name predicate normalizer schema =>
    exact ⟨_, check_scalar_eq_ok_iff.mpr ⟨rfl, keeps.normalized accepted⟩⟩
  | record identity name fields inductionHypothesis =>
    obtain ⟨members, rfl, acceptedFields⟩ := accepts_record_iff.mp accepted
    have rebuildable : ∃ built, Rebuilt (fun type raw value =>
        (type.check raw).outcome = .ok value) fields members built := by
      refine exists_rebuilt fun field member => ?_
      obtain ⟨raw, found, acceptedRaw⟩ := acceptsFields_iff.mp acceptedFields field member
      obtain ⟨built, done⟩ := inductionHypothesis field member (distinct.part (.field member))
        (keeps.part (.field member)) acceptedRaw
      exact ⟨raw, built, found, done⟩
    obtain ⟨built, rebuilt⟩ := rebuildable
    exact ⟨_, check_record_eq_ok_iff.mpr ⟨members, built, rfl, rfl, rebuilt⟩⟩
  | variant identity name payload inductionHypothesis =>
    obtain ⟨built, done⟩ :=
      inductionHypothesis (distinct.part .payload) (keeps.part .payload) accepted
    -- The variant tests what the payload has built; the canonical form passes.
    have canonical := canonical_check (distinct.part .payload) done
    exact ⟨built, check_variant_eq_ok_iff.mpr ⟨done, canonical.accepts⟩⟩
  | sum identity name variants inductionHypothesis =>
    -- The normalizers of the variants are not even asked.
    exact ⟨_, check_sum_eq_ok_iff.mpr (Or.inl ⟨accepted, rfl⟩)⟩

/-- Construction succeeds when the checks do. -/
theorem exists_construct_iff {type : Descriptor} {raw : Json} :
    (∃ made, (type.construct raw).outcome = .ok made) ↔
      ∃ value, (type.check raw).outcome = .ok value := by
  constructor
  · rintro ⟨made, done⟩
    exact ⟨made.value, (construct_eq_ok_iff.mp done).2⟩
  · rintro ⟨value, done⟩
    exact ⟨⟨type, value⟩, construct_eq_ok_iff.mpr ⟨rfl, done⟩⟩

/-- A sum constructs what one of its variants constructs. -/
theorem exists_check_sum_iff {identity : Identity} {name : String}
    {variants : List (String × Descriptor)}
    (distinct : (sum identity name variants).Distinct)
    (keeps : (sum identity name variants).KeepsMembers) {raw : Json} :
    (∃ value, ((sum identity name variants).check raw).outcome = .ok value) ↔
      ∃ variant ∈ variants, ∃ value, (variant.2.check raw).outcome = .ok value := by
  constructor
  · rintro ⟨value, done⟩
    rcases check_sum_eq_ok_iff.mp done with ⟨accepted, _⟩ | ⟨_, built⟩
    · obtain ⟨variant, member, acceptedThere⟩ := acceptsSome_iff.mp accepted
      have able := exists_check_of_accepts (distinct.part (.variant member))
        (keeps.part (.variant member)) acceptedThere
      exact ⟨variant, member, able⟩
    · obtain ⟨variant, member, checked⟩ := exists_check_of_checkFirst built
      exact ⟨variant, member, value, checked⟩
  · intro able
    cases accepted : acceptsSome variants raw with
    | true => exact ⟨_, check_sum_eq_ok_iff.mpr (Or.inl ⟨accepted, rfl⟩)⟩
    | false =>
      obtain ⟨value, built⟩ := exists_checkFirst_of_check able
      exact ⟨value, check_sum_eq_ok_iff.mpr (Or.inr ⟨accepted, built⟩)⟩

end Descriptor

/-- A union reaches each of its variants by name. -/
theorem Union.construct_eq_ok_iff {union : Union} {name : String} {raw : Json}
    {built : Traced (Except Rejection Instance)} :
    union.construct name raw = .ok built ↔
      ∃ type, Table.find? union.variants name = some type ∧ type.construct raw = built := by
  unfold Union.construct Union.variant?
  cases found : Table.find? union.variants name with
  | none => simp
  | some type => simp

/-- A union constructs a value if the value can be constructed under the name of a variant. -/
theorem Union.exists_construct_iff {union : Union} (distinct : union.asType.Distinct)
    (keeps : union.asType.KeepsMembers) {raw : Json} :
    (∃ made, (union.asType.construct raw).outcome = .ok made) ↔
      ∃ name built made, union.construct name raw = .ok built ∧ built.outcome = .ok made := by
  rw [Descriptor.exists_construct_iff, asType, Descriptor.exists_check_sum_iff distinct keeps]
  constructor
  · rintro ⟨variant, member, able⟩
    obtain ⟨made, done⟩ := Descriptor.exists_construct_iff.mpr able
    have found : Table.find? union.variants variant.1 = some variant.2 :=
      Table.find?_of_mem distinct.names member
    exact ⟨variant.1, _, made, construct_eq_ok_iff.mpr ⟨variant.2, found, rfl⟩, done⟩
  · rintro ⟨name, built, made, reached, done⟩
    obtain ⟨type, found, rfl⟩ := construct_eq_ok_iff.mp reached
    have able := Descriptor.exists_construct_iff.mp ⟨made, done⟩
    exact ⟨(name, type), Table.mem_of_find? found, able⟩

/-! ### Loadable types -/

variable {engine : PatternEngine}

/-- Three of the standard types normalize, and each of them makes a member of a member. -/
theorem Standard.normalizesMembers {type : Descriptor} (member : type ∈ Standard.all) :
    type.NormalizesMembers := by
  have nothing : Standard.nothing.NormalizesMembers := fun _ _ => rfl
  have error : Standard.error.NormalizesMembers := fun _ _ => rfl
  have success : Standard.success.NormalizesMembers := by
    intro value accepted
    cases value with
    | object members => rfl
    | null | bool | number | string | array => cases accepted
  simp only [Standard.all, List.mem_cons, List.not_mem_nil, or_false] at member
  rcases member with rfl | rfl | rfl | rfl | rfl | rfl | rfl | rfl | rfl <;>
    trivial

theorem Loadable.keepsMembers {type : Descriptor} (loadable : Loadable engine type) :
    type.KeepsMembers := by
  intro part within
  cases loadable.part within with
  | standard member => exact Standard.normalizesMembers member
  | refined | record | variant | sum => trivial

/-! ### Membership implies constructibility -/

/-- A descriptor whose normalizers take members to members constructs each of its members, and a
union of this kind constructs what one of its variants does. Every type of a registry that was
loaded from texts is of this kind, with everything it is built from. -/
theorem exists_construct_of_is :
    (∀ type : Descriptor, type.Distinct → type.KeepsMembers → ∀ value,
      type.is (.raw value) = true → ∃ made, (type.construct value).outcome = .ok made) ∧
    (∀ union : Union, union.asType.Distinct → union.asType.KeepsMembers → ∀ raw,
      (∃ made, (union.asType.construct raw).outcome = .ok made) ↔
        ∃ name built made, union.construct name raw = .ok built ∧ built.outcome = .ok made) ∧
    ∀ engine registry, Grown engine registry → ∀ name type, registry.type? name = some type →
      ∀ part : Descriptor, part.PartOf type → part.Distinct ∧ part.KeepsMembers := by
  refine ⟨?_, ?_, ?_⟩
  · intro type distinct keeps value accepted
    rw [Descriptor.is_raw] at accepted
    exact Descriptor.exists_construct_iff.mpr
      (Descriptor.exists_check_of_accepts distinct keeps accepted)
  · intro union distinct keeps raw
    exact Union.exists_construct_iff distinct keeps
  · intro engine registry grown name type found part within
    have loadable := (grown.holds_loadable.type? found).part within
    exact ⟨loadable.distinct, loadable.keepsMembers⟩

/-- A row takes absence for a truth value and turns it into one. -/
theorem exists_construct_of_is_row :
    let switch : Descriptor := .scalar (.made 0) "Switch"
      (fun value => value.isBoolean || value.isNothing)
      (some fun value => .bool value.isBoolean) none
    let row : Descriptor := .record (.made 1) "Row" [("on", switch), ("result", Standard.success)]
    let union : Union := ⟨.made 3, "Cell", [("Row", .variant (.made 2) "Row" row)]⟩
    let value : Json := .object [("note", .null), ("on", .null),
      ("result", .object [("value", .string "a"), ("ok", .bool true)])]
    let raw : Json := .object [("result", .string "a"), ("on", .null)]
    row.is (.raw value) = true ∧ (∃ made, (row.construct value).outcome = .ok made) ∧
      union.is (.raw raw) = false ∧ (∃ made, (union.asType.construct raw).outcome = .ok made) ∧
      Maybe.nothingType.KeepsMembers := by
  intro switch row union value raw
  have distinct : union.asType.Distinct := by
    simp [union, Union.asType, row, switch, Descriptor.Distinct, Descriptor.named, Table.keys,
      Standard.success, Standard.scalar]
  have keeps : union.asType.KeepsMembers := by
    have success : Standard.success.Throughout Descriptor.NormalizesMembers :=
      (Loadable.standard (by simp [Standard.all]) : Loadable Pattern.engine _).keepsMembers
    simp [union, Union.asType, row, switch, Descriptor.KeepsMembers,
      Descriptor.NormalizesMembers, success, Json.isBoolean]
  have within : row.PartOf union.asType :=
    .inside List.mem_cons_self (.inside List.mem_cons_self .self)
  have accepted : row.is (.raw value) = true := rfl
  refine ⟨accepted, ?_, rfl, ?_, ?_⟩
  · exact exists_construct_of_is.1 row (distinct.part within) (keeps.part within) value accepted
  · exact (exists_construct_of_is.2.1 union distinct keeps raw).mpr ⟨"Row", _, _, rfl, rfl⟩
  · exact (exists_construct_of_is.2.2 Pattern.engine .standard .standard "Maybe" _ rfl _
      (.variant (List.mem_cons_of_mem _ List.mem_cons_self))).2

end JsonShape
