/-
This file says when two values are the same: they are equal, and neither holds a name
twice in one object, as no value does that was read (`Json.Same`). Such values may differ
in the order of the members of their objects, at any depth, and in the sign of zero.
Looking a member up finds the same in both (`Json.Same.find?`), and objects that are put
together from the same members under the same names are the same (`Json.Same.object`).

No loadable type tells such values apart (`Loadable.accepts_of_same`): the standard
scalars ask for kinds and for members by name, and a refinement compares numbers by their
value.
-/

import JsonShape.Proofs.Loadable
import Mathlib.Data.List.Perm.Subperm

namespace JsonShape

namespace Json

/-! ### Values that are the same -/

/-- The two values are equal, and no object in them holds a name twice. -/
structure Same (first second : Json) : Prop where
  left : first.Distinct
  right : second.Distinct
  equal : first.equal second = true

theorem Distinct.names {members : List (String × Json)}
    (distinct : (Json.object members).Distinct) : (Table.keys members).Nodup := by
  cases distinct with
  | object names _ => exact names

theorem Distinct.find? {members : List (String × Json)} (distinct : (Json.object members).Distinct)
    {name : String} {value : Json} (found : Table.find? members name = some value) :
    value.Distinct := by
  cases distinct with
  | object _ each => exact each (name, value) (Table.mem_of_find? found)

theorem equalMembers_iff {firsts seconds : List (String × Json)} :
    equalMembers firsts seconds = true ↔
      ∀ member ∈ firsts, ∃ other, Table.find? seconds member.1 = some other ∧
        member.2.equal other = true := by
  induction firsts with
  | nil => simp [equalMembers]
  | cons member rest inductionHypothesis =>
    obtain ⟨name, value⟩ := member
    rw [equalMembers, Bool.and_eq_true, inductionHypothesis, List.forall_mem_cons]
    refine and_congr_left fun _ => ?_
    cases found : Table.find? seconds name with
    | none => simp
    | some other => simp

theorem equal_object_iff {firsts seconds : List (String × Json)} :
    (object firsts).equal (object seconds) = true ↔
      firsts.length = seconds.length ∧
        ∀ member ∈ firsts, ∃ other, Table.find? seconds member.1 = some other ∧
          member.2.equal other = true := by
  rw [Json.equal, Bool.and_eq_true, beq_iff_eq, equalMembers_iff]

/-- Of two tables without repeated names that hold equally many of them, each holds all names of the
other one if it holds them the other way round. -/
theorem keys_subset_of_length {firsts seconds : List (String × Json)}
    (names : (Table.keys firsts).Nodup) (length : firsts.length = seconds.length)
    (subset : Table.keys firsts ⊆ Table.keys seconds) :
    Table.keys seconds ⊆ Table.keys firsts := by
  have lengths : (Table.keys seconds).length ≤ (Table.keys firsts).length := by
    simp only [Table.keys, List.length_map, length, Nat.le_refl]
  exact ((List.subperm_of_subset names subset).perm_of_length_le lengths).symm.subset

namespace Same

variable {first second : Json}

/-- Under every name both objects hold the same, or neither holds anything. -/
theorem find? {firsts seconds : List (String × Json)}
    (same : (object firsts).Same (object seconds)) (name : String) :
    Option.Rel Same (Table.find? firsts name) (Table.find? seconds name) := by
  obtain ⟨length, each⟩ := equal_object_iff.mp same.equal
  cases found : Table.find? firsts name with
  | some value =>
    obtain ⟨other, partner, equal⟩ := each _ (Table.mem_of_find? found)
    rw [partner]
    exact .some ⟨same.left.find? found, same.right.find? partner, equal⟩
  | none =>
    -- A name that the first object lacks would be one too many in the second one.
    have subset : Table.keys firsts ⊆ Table.keys seconds := by
      intro key member
      obtain ⟨entry, entryMember, rfl⟩ := List.mem_map.mp member
      obtain ⟨other, partner, _⟩ := each entry entryMember
      exact Table.mem_keys_of_find? partner
    have absent := (Table.find?_eq_none_iff firsts name).mp found
    have absentThere : name ∉ Table.keys seconds := fun member =>
      absent (keys_subset_of_length same.left.names length subset member)
    rw [(Table.find?_eq_none_iff seconds name).mpr absentThere]
    exact .none

/-- Objects with the same members under the same names are the same. -/
theorem object {firsts seconds : List (String × Json)} (names : (Table.keys firsts).Nodup)
    (aligned : Table.Aligned (fun _ first second => first.Same second) firsts seconds) :
    (Json.object firsts).Same (.object seconds) where
  left := .object names fun entry member => by
    obtain ⟨_, _, same⟩ := aligned.exists_second member
    exact same.left
  right := .object (aligned.keys ▸ names) fun entry member => by
    obtain ⟨_, _, same⟩ := aligned.exists_first member
    exact same.right
  equal := by
    have length : firsts.length = seconds.length := by
      have keys := congrArg List.length aligned.keys
      rw [Table.keys, Table.keys, List.length_map, List.length_map] at keys
      exact keys.symm
    refine equal_object_iff.mpr ⟨length, fun entry member => ?_⟩
    obtain ⟨other, partner, same⟩ := aligned.find? names member
    exact ⟨other, partner, same.equal⟩

end Same

/-! ### Kinds -/

/-- What two values that are the same have in common. -/
inductive SameForm : Json → Json → Prop
  | null : SameForm .null .null
  | bool (value : Bool) : SameForm (.bool value) (.bool value)
  | number {first second : Number} (equal : first.equal second = true) :
      SameForm (.number first) (.number second)
  | string (value : String) : SameForm (.string value) (.string value)
  | array (firsts seconds : List Json) : SameForm (.array firsts) (.array seconds)
  | object {firsts seconds : List (String × Json)}
      (members : ∀ name, Option.Rel Same (Table.find? firsts name) (Table.find? seconds name)) :
      SameForm (.object firsts) (.object seconds)

namespace Same

variable {first second : Json}

theorem form (same : first.Same second) : first.SameForm second := by
  have equal := same.equal
  cases first <;> cases second <;> simp only [Json.equal, Bool.false_eq_true, beq_iff_eq] at equal
  case null.null => exact .null
  case bool.bool => exact equal ▸ .bool _
  case number.number => exact .number equal
  case string.string => exact equal ▸ .string _
  case array.array => exact .array _ _
  case object.object => exact .object same.find?

/-- A member that one of the values has, the other one has too. -/
theorem member? (same : first.Same second) (name : String) :
    Option.Rel Same (first.member? name) (second.member? name) := by
  cases same.form with
  | object members => exact members name
  | null | bool | number | string | array => exact .none

theorem isString_eq (same : first.Same second) : first.isString = second.isString := by
  cases same.form <;> rfl

theorem isNumber_eq (same : first.Same second) : first.isNumber = second.isNumber := by
  cases same.form <;> rfl

theorem isObject_eq (same : first.Same second) : first.isObject = second.isObject := by
  cases same.form <;> rfl

theorem isBoolean_eq (same : first.Same second) : first.isBoolean = second.isBoolean := by
  cases same.form <;> rfl

theorem isArray_eq (same : first.Same second) : first.isArray = second.isArray := by
  cases same.form <;> rfl

theorem isNothing_eq (same : first.Same second) : first.isNothing = second.isNothing := by
  cases same.form <;> rfl

theorem isSomething_eq (same : first.Same second) : first.isSomething = second.isSomething := by
  rw [isSomething, isSomething, same.isNothing_eq]

theorem string?_eq (same : first.Same second) : first.string? = second.string? := by
  cases same.form <;> rfl

/-- As floats, numbers that are the same have the same value; only a zero may differ in its sign. -/
theorem signedUnits_eq (same : first.Same second) :
    first.binary64?.map Binary64.signedUnits = second.binary64?.map Binary64.signedUnits := by
  cases same.form with
  | @number first second equal =>
    cases first <;> cases second <;>
      simp only [Number.equal, Bool.false_eq_true, decide_eq_true_eq] at equal
    case integer.integer first second =>
      rw [binary64?, binary64?, Number.toBinary64?, Number.toBinary64?, equal]
    case float.float first second =>
      rw [Binary64.equal, decide_eq_true_eq] at equal
      rw [binary64?, binary64?, Number.toBinary64?, Number.toBinary64?, Option.map_some,
        Option.map_some, equal]
  | null | bool | string | array | object => rfl

end Same

end Json

open Json (Same)

/-! ### Standard scalars -/

theorem isSuccess_of_same {first second : Json} (same : first.Same second) :
    isSuccess first = isSuccess second := by
  have flags := same.member? "ok"
  have contents := same.member? "value"
  unfold isSuccess
  generalize first.member? "ok" = firstFlag, second.member? "ok" = secondFlag at flags ⊢
  generalize first.member? "value" = content, second.member? "value" = other at contents ⊢
  refine congrArg₂ (· && ·) ?_ ?_
  · cases flags with
    | none => rfl
    | some same => cases same.form <;> rfl
  · cases contents with
    | none => rfl
    | some same => exact same.isSomething_eq

theorem isFailure_of_same {first second : Json} (same : first.Same second) :
    isFailure first = isFailure second := by
  have flags := same.member? "ok"
  have contents := same.member? "error"
  unfold isFailure
  generalize first.member? "ok" = firstFlag, second.member? "ok" = secondFlag at flags ⊢
  generalize first.member? "error" = content, second.member? "error" = other at contents ⊢
  refine congrArg₂ (· && ·) ?_ ?_
  · cases flags with
    | none => rfl
    | some same => cases same.form <;> rfl
  · cases contents with
    | none => rfl
    | some same => exact same.isString_eq

/-- The standard scalars do not tell the values apart. -/
theorem Standard.accepts_of_same {type : Descriptor} (standard : type ∈ Standard.all)
    {first second : Json} (same : first.Same second) :
    type.accepts first = type.accepts second := by
  simp only [Standard.all, List.mem_cons, List.not_mem_nil, or_false] at standard
  rcases standard with rfl | rfl | rfl | rfl | rfl | rfl | rfl | rfl | rfl
  · exact same.isString_eq
  · exact same.isNumber_eq
  · exact same.isBoolean_eq
  · exact same.isArray_eq
  · exact same.isObject_eq
  · exact same.isSomething_eq
  · exact same.isNothing_eq
  · exact isSuccess_of_same same
  · exact isFailure_of_same same

/-! ### Loadable types -/

namespace Registry

theorem patternHolds_of_same {pattern : Option Matcher} {first second : Json}
    (same : first.Same second) : patternHolds pattern first = patternHolds pattern second := by
  unfold patternHolds
  rw [same.string?_eq]

/-- A bound that is compared by value does not tell the values apart. -/
theorem boundHolds_of_same {bound : Option Binary64} {test : Binary64 → Binary64 → Bool}
    (byValue : ∀ bound first second : Binary64, first.signedUnits = second.signedUnits →
      test bound first = test bound second)
    {first second : Json} (same : first.Same second) :
    boundHolds bound test first = boundHolds bound test second := by
  have values := same.signedUnits_eq
  unfold boundHolds
  cases bound with
  | none => rfl
  | some bound =>
    cases foundFirst : first.binary64? <;> cases foundSecond : second.binary64? <;>
      simp only [foundFirst, foundSecond, Option.map_some, Option.map_none, reduceCtorEq,
        Option.some.injEq] at values
    case none.none => rfl
    case some.some number other => exact byValue bound number other values

theorem refinedPredicate_of_same {base : Descriptor} {pattern : Option Matcher}
    {minimum maximum : Option Binary64} {first second : Json} (same : first.Same second)
    (inBase : base.accepts first = base.accepts second) :
    refinedPredicate base pattern minimum maximum first =
      refinedPredicate base pattern minimum maximum second := by
  have above : boundHolds minimum (fun bound number => bound.le number) first =
      boundHolds minimum (fun bound number => bound.le number) second :=
    boundHolds_of_same (fun _ _ _ value => by rw [Binary64.le, Binary64.le, value]) same
  have below : boundHolds maximum (fun bound number => number.le bound) first =
      boundHolds maximum (fun bound number => number.le bound) second :=
    boundHolds_of_same (fun _ _ _ value => by rw [Binary64.le, Binary64.le, value]) same
  rw [refinedPredicate, refinedPredicate, inBase, patternHolds_of_same same, above, below]

end Registry

namespace Descriptor

theorem acceptsFields_of_same {fields : List (String × Descriptor)}
    (each : ∀ field ∈ fields, ∀ first second : Json, first.Same second →
      field.2.accepts first = field.2.accepts second)
    {firsts seconds : List (String × Json)}
    (members : ∀ name, Option.Rel Same (Table.find? firsts name) (Table.find? seconds name)) :
    acceptsFields fields firsts = acceptsFields fields seconds := by
  induction fields with
  | nil => rfl
  | cons field rest inductionHypothesis =>
    obtain ⟨name, type⟩ := field
    obtain ⟨here, others⟩ := List.forall_mem_cons.mp each
    rw [acceptsFields, acceptsFields, inductionHypothesis others]
    have found := members name
    generalize Table.find? firsts name = first, Table.find? seconds name = second at found ⊢
    cases found with
    | none => rfl
    | some same => simp only [here _ _ same]

theorem acceptsSome_of_same {variants : List (String × Descriptor)} {first second : Json}
    (each : ∀ variant ∈ variants, variant.2.accepts first = variant.2.accepts second) :
    acceptsSome variants first = acceptsSome variants second := by
  induction variants with
  | nil => rfl
  | cons variant rest inductionHypothesis =>
    obtain ⟨here, others⟩ := List.forall_mem_cons.mp each
    rw [acceptsSome, acceptsSome, here, inductionHypothesis others]

end Descriptor

variable {engine : PatternEngine}

/-- A loadable type accepts both of two values that are the same, or neither. -/
theorem Loadable.accepts_of_same {type : Descriptor} (loadable : Loadable engine type)
    (first second : Json) (same : first.Same second) :
    type.accepts first = type.accepts second := by
  induction loadable generalizing first second with
  | standard member => exact Standard.accepts_of_same member same
  | refined _ _ _ inductionHypothesis =>
    exact Registry.refinedPredicate_of_same same (inductionHypothesis first second same)
  | record _ _ inductionHypothesis =>
    cases same.form with
    | object members => exact Descriptor.acceptsFields_of_same inductionHypothesis members
    | null | bool | number | string | array => rfl
  | variant _ inductionHypothesis => exact inductionHypothesis first second same
  | sum _ _ inductionHypothesis =>
    exact Descriptor.acceptsSome_of_same fun variant member =>
      inductionHypothesis variant member first second same

end JsonShape
