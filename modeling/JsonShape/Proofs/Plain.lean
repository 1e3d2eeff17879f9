/-
This file shows that without normalizers there is nothing to choose between the
routes to a value. A descriptor is plain if no scalar inside it has a normalizer. A
plain descriptor constructs exactly the values that it accepts, and it makes of each
of them what settling makes of it.

Checking and settling rebuild a value independently of each other: checking stops at
the first field that fails, settling never fails, and each of them looks for the
variant of a sum on its own. What brings them together is that settling the members
of a record is the only way to rebuild it (`rebuilt_settle_iff`), and that a sum
whose variants all refuse a value has no variant that could construct it.
-/

import JsonShape.Proofs.Canonical

namespace JsonShape

namespace Descriptor

/-- The descriptor does not normalize: it is no scalar, or a scalar without a normalizer. -/
def Unnormalized : Descriptor → Prop
  | scalar _ _ _ normalizer _ => normalizer = none
  | _ => True

instance decidableUnnormalized : DecidablePred Unnormalized
  | scalar _ _ _ none _ => isTrue rfl
  | scalar _ _ _ (some _) _ => isFalse nofun
  | record .. | variant .. | sum .. => isTrue trivial

/-- No scalar inside the descriptor has a normalizer. -/
def Plain (type : Descriptor) : Prop := type.Throughout Unnormalized

instance decidablePlain (type : Descriptor) : Decidable type.Plain :=
  inferInstanceAs (Decidable (type.Throughout Unnormalized))

theorem Plain.part {part type : Descriptor} (plain : type.Plain) (within : PartOf part type) :
    part.Plain :=
  Throughout.part plain within

/-! ### One way to rebuild a record -/

/-- Two ways of making the contents that agree on the fields rebuild the same records. -/
theorem rebuilt_congr {make other : Descriptor → Json → Json → Prop}
    {fields : List (String × Descriptor)} {members built : List (String × Json)}
    (each : ∀ field ∈ fields, ∀ raw value, make field.2 raw value ↔ other field.2 raw value) :
    Rebuilt make fields members built ↔ Rebuilt other fields members built := by
  constructor
  · intro rebuilt
    refine Table.Aligned.imp rebuilt fun field member value => ?_
    rintro ⟨raw, found, made⟩
    exact ⟨raw, found, (each field member raw value).mp made⟩
  · intro rebuilt
    refine Table.Aligned.imp rebuilt fun field member value => ?_
    rintro ⟨raw, found, made⟩
    exact ⟨raw, found, (each field member raw value).mpr made⟩

/-- A record that is rebuilt by settling the members is the one that settling the fields leaves. -/
theorem eq_settleFields_of_rebuilt {fields : List (String × Descriptor)}
    {members built : List (String × Json)}
    (rebuilt : Rebuilt (fun type raw value => type.accepts raw = true ∧ value = type.settle raw)
      fields members built) : built = settleFields fields members := by
  induction fields generalizing built with
  | nil => exact Table.Aligned.nil_iff.mp rebuilt
  | cons field rest inductionHypothesis =>
    obtain ⟨_, others, ⟨raw, found, _, rfl⟩, tail, rfl⟩ := Table.Aligned.cons_iff.mp rebuilt
    rw [settleFields, found, inductionHypothesis tail]

/-- Settling the members rebuilds a record if the fields accept them, and in one way only. -/
theorem rebuilt_settle_iff {fields : List (String × Descriptor)}
    {members built : List (String × Json)} :
    Rebuilt (fun type raw value => type.accepts raw = true ∧ value = type.settle raw) fields
        members built ↔
      acceptsFields fields members = true ∧ built = settleFields fields members := by
  constructor
  · intro rebuilt
    refine ⟨acceptsFields_iff.mpr fun field member => ?_, eq_settleFields_of_rebuilt rebuilt⟩
    obtain ⟨_, _, raw, found, accepted, _⟩ := rebuilt.exists_second member
    exact ⟨raw, found, accepted⟩
  · rintro ⟨accepted, rfl⟩
    exact rebuilt_settleFields accepted

/-! ### Plain descriptors -/

/-- A plain descriptor passes the values that it accepts and no others, and it settles them. -/
theorem check_plain_eq_ok_iff {type : Descriptor} (distinct : type.Distinct) (plain : type.Plain)
    {raw value : Json} :
    (type.check raw).outcome = .ok value ↔
      type.accepts raw = true ∧ value = type.settle raw := by
  induction type generalizing raw value with
  | scalar identity name predicate normalizer schema =>
    have absent : normalizer = none := plain.here
    rw [check_scalar_eq_ok_iff, absent]
    show raw = value ∧ predicate value = true ↔ predicate raw = true ∧ value = raw
    constructor
    · rintro ⟨rfl, passed⟩
      exact ⟨passed, rfl⟩
    · rintro ⟨passed, rfl⟩
      exact ⟨rfl, passed⟩
  | record identity name fields inductionHypothesis =>
    -- Field by field, what checking makes of a member is what settling makes of it.
    have each : ∀ field ∈ fields, ∀ raw value, (field.2.check raw).outcome = .ok value ↔
        field.2.accepts raw = true ∧ value = field.2.settle raw := fun field member _ _ =>
      inductionHypothesis field member (distinct.part (.field member)) (plain.part (.field member))
    rw [check_record_eq_ok_iff, accepts_record_iff]
    constructor
    · rintro ⟨members, built, rfl, rfl, rebuilt⟩
      obtain ⟨accepted, rfl⟩ := rebuilt_settle_iff.mp ((rebuilt_congr each).mp rebuilt)
      exact ⟨⟨members, rfl, accepted⟩, rfl⟩
    · rintro ⟨⟨members, rfl, accepted⟩, rfl⟩
      exact ⟨members, _, rfl, rfl,
        (rebuilt_congr each).mpr (rebuilt_settle_iff.mpr ⟨accepted, rfl⟩)⟩
  | variant identity name payload inductionHypothesis =>
    rw [check_variant_eq_ok_iff, inductionHypothesis (distinct.part .payload) (plain.part .payload)]
    -- The test after building is passed, because what is settled is accepted.
    refine and_iff_left_of_imp ?_
    rintro ⟨accepted, rfl⟩
    exact (canonical_settle (distinct.part .payload) accepted).accepts
  | sum identity name variants inductionHypothesis =>
    rw [check_sum_eq_ok_iff]
    constructor
    · rintro (⟨accepted, rfl⟩ | ⟨refused, built⟩)
      · exact ⟨accepted, rfl⟩
      · obtain ⟨variant, member, checked⟩ := exists_check_of_checkFirst built
        have accepted := ((inductionHypothesis variant member (distinct.part (.variant member))
          (plain.part (.variant member))).mp checked).1
        have acceptedSome : acceptsSome variants raw = true :=
          acceptsSome_iff.mpr ⟨variant, member, accepted⟩
        rw [refused] at acceptedSome
        cases acceptedSome
    · rintro ⟨accepted, rfl⟩
      exact Or.inl ⟨accepted, rfl⟩

/-- A plain descriptor constructs a value exactly if the value is a member, and then the instance
holds the settled value. -/
theorem construct_plain (type : Descriptor) (distinct : type.Distinct) (plain : type.Plain)
    (raw : Json) :
    ((∃ made, (type.construct raw).outcome = .ok made) ↔ type.is (.raw raw) = true) ∧
      ∀ made, (type.construct raw).outcome = .ok made → made = ⟨type, type.settle raw⟩ := by
  rw [is_raw]
  refine ⟨⟨?_, fun accepted => ?_⟩, ?_⟩
  · rintro ⟨made, built⟩
    have checked := (construct_eq_ok_iff.mp built).2
    exact ((check_plain_eq_ok_iff distinct plain).mp checked).1
  · have checked := (check_plain_eq_ok_iff distinct plain).mpr ⟨accepted, rfl⟩
    exact ⟨⟨type, type.settle raw⟩, construct_eq_ok_iff.mpr ⟨rfl, checked⟩⟩
  · intro made built
    obtain ⟨tag, checked⟩ := construct_eq_ok_iff.mp built
    obtain ⟨_, settles⟩ := (check_plain_eq_ok_iff distinct plain).mp checked
    show Instance.mk made.descriptor made.value = _
    rw [tag, settles]

/-- The second shape of a drawing takes the value; its members come in the order of declaration and
the undeclared ones go, also below the union. -/
theorem construct_plain_drawing :
    let dot : Descriptor := .record (.made 0) "Dot" [("x", Standard.number), ("y", Standard.number)]
    let box : Descriptor := .record (.made 1) "Box" [("w", Standard.number), ("corner", dot)]
    let shape : Descriptor := .sum (.made 4) "Shape"
      [("Dot", .variant (.made 2) "Dot" dot), ("Box", .variant (.made 3) "Box" box)]
    let drawing : Descriptor := .record (.made 5) "Drawing"
      [("title", Standard.string), ("main", shape)]
    let zero : Json := .number (.float (.zero false))
    let raw : Json := .object [("main", .object
        [("corner", .object [("y", zero), ("x", zero), ("z", zero)]), ("note", .null),
          ("w", zero)]),
      ("author", .string "Ada"), ("title", .string "Plan")]
    let value : Json := .object [("title", .string "Plan"), ("main", .object
      [("w", zero), ("corner", .object [("x", zero), ("y", zero)])])]
    drawing.Plain ∧ drawing.is (.raw raw) = true ∧ drawing.settle raw = value ∧
      (drawing.construct raw).outcome = .ok ⟨drawing, value⟩ := by
  intro dot box shape drawing zero raw value
  have distinct : drawing.Distinct := by
    simp [drawing, shape, box, dot, Distinct, named, Table.keys, Standard.string, Standard.number,
      Standard.scalar]
  have plain : drawing.Plain := by
    simp [drawing, shape, box, dot, Plain, Unnormalized, Standard.string, Standard.number,
      Standard.scalar]
  have member : drawing.is (.raw raw) = true := rfl
  have settles : drawing.settle raw = value := rfl
  obtain ⟨constructible, constructed⟩ := construct_plain drawing distinct plain raw
  obtain ⟨made, built⟩ := constructible.mpr member
  refine ⟨plain, member, settles, ?_⟩
  rw [built, constructed made built, settles]

end Descriptor

end JsonShape
