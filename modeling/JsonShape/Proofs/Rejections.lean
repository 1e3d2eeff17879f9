/-
This file shows that a rejection tells the truth about where construction failed. Its
path leads through the fields of the type and the members of the value side by side
(`Descriptor.follow?`), and where it ends, the type that is met there rejects the part
of the value that is met there, for the stated reason and on its own account
(`PointsAt`). On the way there, every field that is declared before the one the path
goes through has passed (`PassesBefore`).

The path is put together backwards, while the failure leaves one record after the
other, so the proof goes along the form of the type and extends a path at its front.
Two things never show in a rejection. A sum reports its own refusal and none of its
variants', so no path leads below a sum. And a variant never rejects on its own
account what its payload has built, because what is built is accepted; so a path does
not stop at a variant either.
-/

import JsonShape.Proofs.Canonical

namespace JsonShape

namespace Descriptor

/-! ### How checking fails -/

theorem check_scalar_eq_error_iff {identity : Identity} {name : String} {predicate : Predicate}
    {normalizer : Option Normalizer} {schema : Option Json} {raw : Json} {rejection : Rejection} :
    ((scalar identity name predicate normalizer schema).check raw).outcome = .error rejection ↔
      predicate (normalized normalizer raw) = false ∧ rejection = .invalid name raw [] := by
  rw [check_scalar]
  cases passed : predicate (normalized normalizer raw) with
  | true => simp
  | false => simp [eq_comm]

/-- A member of a record passes the check of its field. -/
def FieldPasses (members : List (String × Json)) (field : String × Descriptor) : Prop :=
  ∃ raw value, Table.find? members field.1 = some raw ∧ (field.2.check raw).outcome = .ok value

/-- A member of a record is missing, or the check of its field rejects it. -/
def FieldFails (owner : String) (members : List (String × Json)) (field : String × Descriptor)
    (rejection : Rejection) : Prop :=
  (Table.find? members field.1 = none ∧ rejection = .missing owner field.1 []) ∨
    ∃ raw inner, Table.find? members field.1 = some raw ∧
      (field.2.check raw).outcome = .error inner ∧ rejection = inner.within field.1

/-- The fields of a record fail at the first one that fails. -/
theorem checkFields_eq_error_iff {owner : String} {fields : List (String × Descriptor)}
    {members : List (String × Json)} {rejection : Rejection} :
    (checkFields owner fields members).outcome = .error rejection ↔
      ∃ before field after, fields = before ++ field :: after ∧
        (∀ earlier ∈ before, FieldPasses members earlier) ∧
        FieldFails owner members field rejection := by
  induction fields with
  | nil => simp [checkFields]
  | cons field rest inductionHypothesis =>
    -- Either the first field fails, or it passes and the others fail.
    have split : (checkFields owner (field :: rest) members).outcome = .error rejection ↔
        FieldFails owner members field rejection ∨
          (FieldPasses members field ∧
            (checkFields owner rest members).outcome = .error rejection) := by
      unfold FieldFails FieldPasses
      rw [checkFields]
      cases found : Table.find? members field.1 with
      | none => simp [eq_comm]
      | some raw =>
        cases checked : (field.2.check raw).outcome with
        | error inner => simp [checked, eq_comm]
        | ok value =>
          cases others : (checkFields owner rest members).outcome with
          | error inner => simp [checked, others, Except.map]
          | ok tail => simp [checked, others, Except.map]
    rw [split, inductionHypothesis]
    constructor
    · rintro (fails | ⟨passes, before, failing, after, rfl, earlier, fails⟩)
      · exact ⟨[], field, rest, rfl, List.forall_mem_nil _, fails⟩
      · exact ⟨field :: before, failing, after, rfl, List.forall_mem_cons.mpr ⟨passes, earlier⟩,
          fails⟩
    · rintro ⟨_ | ⟨first, before⟩, failing, after, parts, earlier, fails⟩
      · obtain ⟨rfl, rfl⟩ := List.cons.inj parts
        exact Or.inl fails
      · obtain ⟨rfl, rfl⟩ := List.cons.inj parts
        obtain ⟨passes, others⟩ := List.forall_mem_cons.mp earlier
        exact Or.inr ⟨passes, before, failing, after, rfl, others, fails⟩

theorem check_record_eq_error_iff {identity : Identity} {name : String}
    {fields : List (String × Descriptor)} {raw : Json} {rejection : Rejection} :
    ((record identity name fields).check raw).outcome = .error rejection ↔
      (raw.isObject = false ∧ rejection = .invalid name raw []) ∨
        ∃ members, raw = .object members ∧
          (checkFields name fields members).outcome = .error rejection := by
  cases raw with
  | object members =>
    simp only [check, Json.isObject, Json.object.injEq, exists_eq_left', Bool.true_eq_false,
      false_and, false_or]
    cases checkFields name fields members with
    | mk lines outcome => cases outcome <;> simp
  | null | bool | number | string | array => simp [check, Json.isObject, eq_comm]

theorem check_variant_eq_error_iff {identity : Identity} {name : String} {payload : Descriptor}
    (distinct : payload.Distinct) {raw : Json} {rejection : Rejection} :
    ((variant identity name payload).check raw).outcome = .error rejection ↔
      (payload.check raw).outcome = .error rejection := by
  simp only [check]
  cases checked : (payload.check raw).outcome with
  | error inner => simp
  | ok value => simp [(canonical_check distinct checked).accepts]

theorem check_sum_eq_error_iff {identity : Identity} {name : String}
    {variants : List (String × Descriptor)} {raw : Json} {rejection : Rejection} :
    ((sum identity name variants).check raw).outcome = .error rejection ↔
      acceptsSome variants raw = false ∧ (checkFirst variants raw).outcome = none ∧
        rejection = .invalid name raw [] := by
  simp only [check]
  cases accepted : acceptsSome variants raw with
  | true => simp
  | false =>
    cases built : (checkFirst variants raw).outcome with
    | none => simp [eq_comm]
    | some value => simp

/-- Construction fails as checking fails. -/
theorem construct_eq_error_iff {type : Descriptor} {raw : Json} {rejection : Rejection} :
    (type.construct raw).outcome = .error rejection ↔
      (type.check raw).outcome = .error rejection := by
  simp only [construct]
  cases checked : (type.check raw).outcome with
  | error inner => simp
  | ok value => simp

/-! ### Following a path -/

/-- What a variant stands for: its payload, which may be a variant again. -/
def stripped : Descriptor → Descriptor
  | variant _ _ payload => payload.stripped
  | type => type

/-- The descriptor and the part of the value to which a path leads, field by field and member by
member. A variant on the way, or at the end of it, stands for its payload. -/
def follow? : Descriptor → Json → List String → Option (Descriptor × Json)
  | type, value, [] => some (type.stripped, value)
  | type, value, name :: path =>
      match type.stripped, value with
      | record _ _ fields, .object members =>
          match Table.find? fields name, Table.find? members name with
          | some field, some content => follow? field content path
          | _, _ => none
      | _, _ => none

@[simp] theorem follow?_variant {identity : Identity} {name : String} {payload : Descriptor}
    {value : Json} {path : List String} :
    (variant identity name payload).follow? value path = payload.follow? value path := by
  cases path <;> rfl

theorem follow?_field {identity : Identity} {owner : String} {fields : List (String × Descriptor)}
    {field : String × Descriptor} {members : List (String × Json)} {content : Json}
    (declared : Table.find? fields field.1 = some field.2)
    (found : Table.find? members field.1 = some content) (path : List String) :
    (record identity owner fields).follow? (.object members) (field.1 :: path) =
      field.2.follow? content path := by
  simp only [follow?, stripped, declared, found]

end Descriptor

/-! ### What a rejection says -/

namespace Rejection

open Descriptor

/-- The names of the fields down to the failing one: the path, and behind it the field that is
missing. -/
def trail : Rejection → List String
  | invalid _ _ path => path
  | missing _ field path => path ++ [field]

@[simp] theorem trail_within (rejection : Rejection) (field : String) :
    (rejection.within field).trail = field :: rejection.trail := by
  cases rejection <;> rfl

/-- The rejection points at what has failed. A value is rejected by the descriptor at the end of the
path, which bears the stated name and rejects the stated value by itself; or the end of the path
is a record of the stated name that declares the stated field, and its object lacks the field. -/
inductive PointsAt (type : Descriptor) (raw : Json) : Rejection → Prop
  | invalid {path : List String} {reached : Descriptor} {part : Json}
      (leads : type.follow? raw path = some (reached, part))
      (fails : (reached.check part).outcome = .error (.invalid reached.name part [])) :
      PointsAt type raw (.invalid reached.name part path)
  | missing {path : List String} {identity : Identity} {owner field : String}
      {fields : List (String × Descriptor)} {members : List (String × Json)}
      (leads : type.follow? raw path = some (.record identity owner fields, .object members))
      (declared : field ∈ Table.keys fields) (absent : Table.find? members field = none) :
      PointsAt type raw (.missing owner field path)

/-- At every record on the trail, the fields that are declared before the next one pass. -/
def PassesBefore (type : Descriptor) (raw : Json) (trail : List String) : Prop :=
  ∀ front name rest, trail = front ++ name :: rest →
    ∃ identity owner fields members,
      type.follow? raw front = some (.record identity owner fields, .object members) ∧
        name ∈ Table.keys fields ∧
        ∀ field ∈ fields.takeWhile (fun field => field.1 ≠ name), FieldPasses members field

/-- What a rejection points at from a field, it points at from the record. -/
theorem PointsAt.within {type whole : Descriptor} {raw value : Json} {rejection : Rejection}
    {field : String} (points : PointsAt type raw rejection)
    (steps : ∀ path, whole.follow? value (field :: path) = type.follow? raw path) :
    PointsAt whole value (rejection.within field) := by
  cases points with
  | invalid leads fails => exact .invalid ((steps _).trans leads) fails
  | missing leads declared absent => exact .missing ((steps _).trans leads) declared absent

/-- What a rejection points at from the payload, it points at from the variant. -/
theorem PointsAt.variant {identity : Identity} {name : String} {payload : Descriptor} {raw : Json}
    {rejection : Rejection} (points : PointsAt payload raw rejection) :
    PointsAt (.variant identity name payload) raw rejection := by
  cases points with
  | invalid leads fails => exact .invalid (follow?_variant.trans leads) fails
  | missing leads declared absent => exact .missing (follow?_variant.trans leads) declared absent

theorem PassesBefore.variant {identity : Identity} {name : String} {payload : Descriptor}
    {raw : Json} {trail : List String} (passes : PassesBefore payload raw trail) :
    PassesBefore (.variant identity name payload) raw trail := by
  intro front next rest parts
  rw [follow?_variant]
  exact passes front next rest parts

/-- Where no name occurs twice, the fields before the name of a field are the ones that precede
it. -/
theorem takeWhile_ne_name {before after : List (String × Descriptor)}
    {field : String × Descriptor} (distinct : (Table.keys (before ++ field :: after)).Nodup) :
    (before ++ field :: after).takeWhile (fun other => other.1 ≠ field.1) = before := by
  have apart : ∀ other ∈ before, decide (other.1 ≠ field.1) = true := by
    intro other member
    rw [Table.keys, List.map_append, List.map_cons, List.nodup_append] at distinct
    exact decide_eq_true
      (distinct.2.2 other.1 (List.mem_map_of_mem member) field.1 List.mem_cons_self)
  rw [List.takeWhile_append_of_pos apart, List.takeWhile_cons, if_neg (by simp), List.append_nil]

/-- The fields of a record pass before one of them, and then those further down, if the trail goes
on. -/
theorem PassesBefore.cons {identity : Identity} {owner : String}
    {before after : List (String × Descriptor)} {field : String × Descriptor}
    {members : List (String × Json)} {trail : List String}
    (distinct : (Table.keys (before ++ field :: after)).Nodup)
    (earlier : ∀ other ∈ before, FieldPasses members other)
    (deeper : trail ≠ [] → ∃ raw, Table.find? members field.1 = some raw ∧
      PassesBefore field.2 raw trail) :
    PassesBefore (.record identity owner (before ++ field :: after)) (.object members)
      (field.1 :: trail) := by
  have member : field ∈ before ++ field :: after := List.mem_append_right _ List.mem_cons_self
  intro front name rest parts
  cases front with
  | nil =>
    obtain ⟨rfl, rfl⟩ := List.cons.inj parts
    refine ⟨identity, owner, _, members, rfl, List.mem_map_of_mem member, ?_⟩
    rw [takeWhile_ne_name distinct]
    exact earlier
  | cons first front =>
    obtain ⟨rfl, rfl⟩ := List.cons.inj parts
    obtain ⟨raw, found, passes⟩ := deeper (by simp)
    obtain ⟨inner, nested, fields, contents, leads, declared, others⟩ :=
      passes front name rest rfl
    have declaredHere := Table.find?_of_mem distinct member
    exact ⟨inner, nested, fields, contents, (follow?_field declaredHere found front).trans leads,
      declared, others⟩

end Rejection

namespace Descriptor

open Rejection

/-- A rejected value is rejected where the rejection says, and everything before that has passed. -/
theorem pointsAt_of_check {type : Descriptor} (distinct : type.Distinct) {raw : Json}
    {rejection : Rejection} (failed : (type.check raw).outcome = .error rejection) :
    PointsAt type raw rejection ∧ PassesBefore type raw rejection.trail := by
  -- A descriptor that fails by itself is met at once, and no field comes before it.
  have atOnce : ∀ {type : Descriptor} {raw : Json}, type.stripped = type →
      (type.check raw).outcome = .error (.invalid type.name raw []) →
      PointsAt type raw (.invalid type.name raw []) ∧ PassesBefore type raw [] := by
    intro type raw itself fails
    refine ⟨.invalid (by rw [follow?, itself]) fails, fun front name rest parts => ?_⟩
    simp at parts
  induction type generalizing raw rejection with
  | scalar identity name predicate normalizer schema =>
    obtain ⟨_, rfl⟩ := check_scalar_eq_error_iff.mp failed
    exact atOnce rfl failed
  | record identity name fields inductionHypothesis =>
    rcases check_record_eq_error_iff.mp failed with ⟨_, rfl⟩ | ⟨members, rfl, fieldsFail⟩
    · exact atOnce rfl failed
    · obtain ⟨before, field, after, rfl, earlier, absent | ⟨raw, inner, found, rejects, rfl⟩⟩ :=
        checkFields_eq_error_iff.mp fieldsFail
      · obtain ⟨lacks, rfl⟩ := absent
        refine ⟨.missing rfl (List.mem_map_of_mem (List.mem_append_right _ List.mem_cons_self))
          lacks, ?_⟩
        exact .cons distinct.names earlier fun nonempty => absurd rfl nonempty
      · have member : field ∈ before ++ field :: after :=
          List.mem_append_right _ List.mem_cons_self
        obtain ⟨points, passes⟩ :=
          inductionHypothesis field member (distinct.part (.field member)) rejects
        refine ⟨points.within (follow?_field (Table.find?_of_mem distinct.names member) found), ?_⟩
        rw [trail_within]
        exact .cons distinct.names earlier fun _ => ⟨raw, found, passes⟩
  | variant identity name payload inductionHypothesis =>
    have inside := distinct.part .payload
    obtain ⟨points, passes⟩ :=
      inductionHypothesis inside ((check_variant_eq_error_iff inside).mp failed)
    exact ⟨points.variant, passes.variant⟩
  | sum identity name variants inductionHypothesis =>
    obtain ⟨_, _, rfl⟩ := check_sum_eq_error_iff.mp failed
    exact atOnce rfl failed

/-- A rejected construction is rejected where its rejection says: the path leads through the fields
of the type and the members of the value to what has failed, and at every record on the way the
fields declared before have passed. -/
theorem construct_rejected (type : Descriptor) (distinct : type.Distinct) (raw : Json)
    (rejection : Rejection) (failed : (type.construct raw).outcome = .error rejection) :
    PointsAt type raw rejection ∧ PassesBefore type raw rejection.trail :=
  pointsAt_of_check distinct (construct_eq_error_iff.mp failed)

/-- A route is rejected for the second number of its goal, below a variant and behind two fields
that pass; without that number, for its absence. -/
theorem construct_rejected_route :
    let point : Descriptor := .record (.made 0) "Point"
      [("x", Standard.number), ("y", Standard.number)]
    let place : Descriptor := .variant (.made 1) "Place" point
    let route : Descriptor := .record (.made 2) "Route"
      [("state", Standard.success), ("start", place), ("goal", place)]
    let zero : Json := .number (.float (.zero false))
    let start : Json := .object [("y", zero), ("x", zero)]
    let raw (goal : List (String × Json)) : Json :=
      .object [("goal", .object goal), ("state", .string "open"), ("start", start)]
    let invalid : Rejection := .invalid "Number" (.string "2") ["goal", "y"]
    let missing : Rejection := .missing "Point" "y" ["goal"]
    (route.construct (raw [("y", .string "2"), ("x", zero)])).outcome = .error invalid ∧
      PointsAt route (raw [("y", .string "2"), ("x", zero)]) invalid ∧
      (route.construct (raw [("x", zero)])).outcome = .error missing ∧
      PassesBefore route (raw [("x", zero)]) ["goal", "y"] := by
  intro point place route zero start raw invalid missing
  have distinct : route.Distinct := by
    simp [route, place, point, Distinct, named, Table.keys, Standard.success, Standard.number,
      Standard.scalar]
  have failsInvalid :
      (route.construct (raw [("y", .string "2"), ("x", zero)])).outcome = .error invalid := rfl
  have failsMissing : (route.construct (raw [("x", zero)])).outcome = .error missing := rfl
  exact ⟨failsInvalid, (construct_rejected route distinct _ _ failsInvalid).1, failsMissing,
    (construct_rejected route distinct _ _ failsMissing).2⟩

end Descriptor

end JsonShape
