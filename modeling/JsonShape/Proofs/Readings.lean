/-
This file compares the readings of a schema. A value that validates in the reading of
membership validates in another reading too, if that reading is as tolerant wherever a
clause applies to a part of the value (`Emitted.validates_of_membership`). The clauses
that apply (`applied`) are those of the schema itself, those of the properties for
which the value has a member, and those of the branches against which it validates.

The transfer goes along the form that the schemas of descriptors have (`Emitted`). It
would break at a `not`, where less is gained the more holds inside, but the only thing
that such a schema negates is absence, and on absence all readings agree.
-/

import JsonShape.Descriptor.Schema
import JsonShape.Descriptor.Standard
import JsonShape.Proofs.Validation

namespace JsonShape

namespace Schema

variable {engine : PatternEngine}

/-! ### Absence -/

theorem validates_kindSchema {reading : Reading} {kind : String} {value : Json} :
    validates engine reading (kindSchema kind) value = (kind == kindOf value) := by
  rw [kindSchema, validates, validatesAll, validatesAll, holds_type, Bool.and_true]

theorem validates_presentSchema {reading : Reading} {value : Json} :
    validates engine reading presentSchema value = value.isSomething := by
  rw [presentSchema, validates, validatesAll, validatesAll, holds_not, validates_kindSchema,
    Bool.and_true]
  cases value <;> rfl

/-! ### Clauses that apply -/

variable (engine : PatternEngine)

mutual

/-- The clauses that apply to a part of the value when it is tested against the schema, each with
that part. -/
def applied : Json → Json → List ((String × Json) × Json)
  | .object clauses, value => appliedAll clauses value
  | _, _ => []
termination_by structural schema => schema

/-- Each clause applies to the value itself, and so does what it has inside to the parts. -/
def appliedAll : List (String × Json) → Json → List ((String × Json) × Json)
  | [], _ => []
  | clause :: rest, value =>
      (clause, value) :: (appliedInside clause value ++ appliedAll rest value)
termination_by structural clauses => clauses

/-- What applies by the schemas inside the clause. -/
def appliedInside : String × Json → Json → List ((String × Json) × Json)
  | ("properties", .object properties), .object members => appliedMembers properties members
  | ("oneOf", .array branches), value => appliedBranches branches value
  | _, _ => []
termination_by structural clause => clause

/-- A property applies if its member is there. -/
def appliedMembers :
    List (String × Json) → List (String × Json) → List ((String × Json) × Json)
  | [], _ => []
  | property :: rest, members => appliedProperty property members ++ appliedMembers rest members
termination_by structural properties => properties

/-- What applies by the schema of a property to the member of its name. -/
def appliedProperty :
    String × Json → List (String × Json) → List ((String × Json) × Json)
  | (name, schema), members =>
      match Table.find? members name with
      | some content => applied schema content
      | none => []
termination_by structural property => property

/-- A branch applies if the value validates against it. -/
def appliedBranches : List Json → Json → List ((String × Json) × Json)
  | [], _ => []
  | branch :: rest, value =>
      (if validates engine .membership branch value then applied branch value else []) ++
        appliedBranches rest value
termination_by structural branches => branches

end

section Applied

variable {engine} {clauses : List (String × Json)} {value : Json} {entry : (String × Json) × Json}

theorem appliedAll_eq_flatMap :
    appliedAll engine clauses value =
      clauses.flatMap fun clause => (clause, value) :: appliedInside engine clause value := by
  induction clauses with
  | nil => rfl
  | cons clause rest inductionHypothesis =>
    rw [appliedAll, inductionHypothesis, List.flatMap_cons, List.cons_append]

theorem mem_appliedMembers {properties members : List (String × Json)} {property : String × Json}
    {content : Json} (declared : property ∈ properties)
    (found : Table.find? members property.1 = some content)
    (inside : entry ∈ applied engine property.2 content) :
    entry ∈ appliedMembers engine properties members := by
  induction properties with
  | nil => cases declared
  | cons first rest inductionHypothesis =>
    rw [appliedMembers, List.mem_append]
    rcases List.mem_cons.mp declared with rfl | later
    · rw [appliedProperty, found]
      exact .inl inside
    · exact .inr (inductionHypothesis later)

theorem mem_appliedBranches {branches : List Json} {branch : Json} (offered : branch ∈ branches)
    (valid : validates engine .membership branch value = true)
    (inside : entry ∈ applied engine branch value) :
    entry ∈ appliedBranches engine branches value := by
  induction branches with
  | nil => cases offered
  | cons first rest inductionHypothesis =>
    rw [appliedBranches, List.mem_append]
    rcases List.mem_cons.mp offered with rfl | later
    · rw [if_pos valid]
      exact .inl inside
    · exact .inr (inductionHypothesis later)

/-- The clauses of a schema apply to the value itself. -/
theorem mem_applied_here {clause : String × Json} (member : clause ∈ clauses) :
    (clause, value) ∈ applied engine (.object clauses) value := by
  rw [applied, appliedAll_eq_flatMap]
  exact List.mem_flatMap.mpr ⟨clause, member, List.mem_cons_self⟩

theorem mem_applied_inside {clause : String × Json} (member : clause ∈ clauses)
    (inside : entry ∈ appliedInside engine clause value) :
    entry ∈ applied engine (.object clauses) value := by
  rw [applied, appliedAll_eq_flatMap]
  exact List.mem_flatMap.mpr ⟨clause, member, List.mem_cons_of_mem _ inside⟩

end Applied

/-! ### Where the readings agree -/

/-- Whether rounding keeps an integer from being carried over the bound that the clause sets. -/
def keepsBound : (String × Json) × Json → Bool
  | (("minimum", .number (.float bound)), .number (.integer whole)) =>
      !Number.roundedAtMost (.float bound) (.integer whole) ||
        Number.atMost (.float bound) (.integer whole)
  | (("maximum", .number (.float bound)), .number (.integer whole)) =>
      !Number.roundedAtMost (.integer whole) (.float bound) ||
        Number.atMost (.integer whole) (.float bound)
  | _ => true

/-- Rounding carries no integer of the value over a bound that applies to it. -/
def KeepsBounds (schema value : Json) : Prop :=
  ∀ entry ∈ applied engine schema value, keepsBound entry = true

instance (schema value : Json) : Decidable (KeepsBounds engine schema value) :=
  inferInstanceAs (Decidable (∀ entry ∈ applied engine schema value, keepsBound entry = true))

/-- Whether at most one of the branches validates that the clause offers. -/
def choosesOne : (String × Json) × Json → Bool
  | (("oneOf", .array branches), part) => decide (countValid engine .standard branches part ≤ 1)
  | _ => true

/-- No part of the value validates against two branches of a `oneOf` that applies to it. -/
def Unambiguous (schema value : Json) : Prop :=
  ∀ entry ∈ applied engine schema value, choosesOne engine entry = true

instance (schema value : Json) : Decidable (Unambiguous engine schema value) :=
  inferInstanceAs
    (Decidable (∀ entry ∈ applied engine schema value, choosesOne engine entry = true))

/-- What the reading of membership lets pass, the other reading lets pass too, wherever a clause
applies to a part of the value. -/
structure Tolerates (reading : Reading) (schema value : Json) : Prop where
  choice : ∀ branches part, (("oneOf", .array branches), part) ∈ applied engine schema value →
    0 < countValid engine reading branches part →
      reading.choice (countValid engine reading branches part) = true
  minimum : ∀ bound number,
    (("minimum", .number (.float bound)), .number number) ∈ applied engine schema value →
    Number.roundedAtMost (.float bound) number = true → reading.atMost (.float bound) number = true
  maximum : ∀ bound number,
    (("maximum", .number (.float bound)), .number number) ∈ applied engine schema value →
    Number.roundedAtMost number (.float bound) = true → reading.atMost number (.float bound) = true

section Tolerates

variable {engine} {reading : Reading} {schema value : Json}

/-- What applies further inside applies to the whole. -/
theorem Tolerates.inside (tolerates : Tolerates engine reading schema value) {inner content : Json}
    (within : applied engine inner content ⊆ applied engine schema value) :
    Tolerates engine reading inner content where
  choice branches part member := tolerates.choice branches part (within member)
  minimum bound number member := tolerates.minimum bound number (within member)
  maximum bound number member := tolerates.maximum bound number (within member)

/-- Floats are not rounded, so the bounds are kept for all numbers. -/
theorem KeepsBounds.tolerates (kept : KeepsBounds engine schema value)
    (exact : reading.atMost = Number.atMost)
    (choice : ∀ branches part, (("oneOf", .array branches), part) ∈ applied engine schema value →
      0 < countValid engine reading branches part →
      reading.choice (countValid engine reading branches part) = true) :
    Tolerates engine reading schema value where
  choice := choice
  minimum bound number member above := by
    rw [exact]
    cases number with
    | integer whole => simpa [keepsBound, above] using kept _ member
    | float real => exact above
  maximum bound number member below := by
    rw [exact]
    cases number with
    | integer whole => simpa [keepsBound, below] using kept _ member
    | float real => exact below

theorem KeepsBounds.tolerates_inclusive (kept : KeepsBounds engine schema value) :
    Tolerates engine .inclusive schema value :=
  kept.tolerates rfl fun _ _ _ some => decide_eq_true some

theorem KeepsBounds.tolerates_standard (kept : KeepsBounds engine schema value)
    (unambiguous : Unambiguous engine schema value) : Tolerates engine .standard schema value := by
  refine kept.tolerates rfl fun branches part member some => ?_
  have one : countValid engine .standard branches part ≤ 1 :=
    of_decide_eq_true (unambiguous _ member)
  exact beq_iff_eq.mpr (by omega)

end Tolerates

/-! ### The form of the schemas -/

/-- A schema such as descriptors have: there are such schemas in its properties and its branches,
nothing but absence is negated, and the bounds are floats. -/
inductive Emitted : Json → Prop
  | object {clauses : List (String × Json)}
      (inProperties : ∀ properties, ("properties", .object properties) ∈ clauses →
        ∀ property ∈ properties, Emitted property.2)
      (inBranches : ∀ branches, ("oneOf", .array branches) ∈ clauses →
        ∀ branch ∈ branches, Emitted branch)
      (negated : ∀ schema, ("not", schema) ∈ clauses → schema = kindSchema "null")
      (bounds : ∀ keyword bound, (keyword, .number bound) ∈ clauses →
        ∃ rounded, bound = .float rounded) :
      Emitted (.object clauses)

/-- A clause with neither a schema nor an integer inside. -/
def Plain (clause : String × Json) : Prop :=
  clause.1 ∉ ["properties", "oneOf", "not"] ∧ ∀ whole, clause.2 ≠ .number (.integer whole)

/-- Plain clauses can be written into a schema of the form. -/
theorem Emitted.extend {clauses larger : List (String × Json)}
    (emitted : Emitted (.object clauses))
    (plain : ∀ clause ∈ larger, clause ∈ clauses ∨ Plain clause) :
    Emitted (.object larger) := by
  have old : ∀ {keyword content}, (keyword, content) ∈ larger →
      keyword ∈ ["properties", "oneOf", "not"] → (keyword, content) ∈ clauses :=
    fun member nests => (plain _ member).resolve_right fun plain => plain.1 nests
  cases emitted with
  | object inProperties inBranches negated bounds =>
    refine .object (fun properties member => inProperties properties (old member (by decide)))
      (fun branches member => inBranches branches (old member (by decide)))
      (fun schema member => negated schema (old member (by decide))) fun keyword bound member => ?_
    rcases plain _ member with known | ⟨_, noInteger⟩
    · exact bounds keyword bound known
    · cases bound with
      | integer whole => exact absurd rfl (noInteger whole)
      | float rounded => exact ⟨rounded, rfl⟩

theorem Emitted.withMember {schema content : Json} {keyword : String} (emitted : Emitted schema)
    (plain : Plain (keyword, content)) : Emitted (schema.withMember keyword content) := by
  cases schema with
  | object clauses =>
    refine emitted.extend fun clause member => ?_
    exact (Table.mem_insert member).elim (fun written => .inr (written ▸ plain)) .inl
  | null | bool | number | string | array => cases emitted

theorem Emitted.plain {clauses : List (String × Json)}
    (plain : ∀ clause ∈ clauses, Plain clause) : Emitted (.object clauses) := by
  have empty : Emitted (.object []) := by
    refine .object ?_ ?_ ?_ ?_ <;> simp
  exact empty.extend fun clause member => .inr (plain clause member)

theorem Emitted.kindSchema (kind : String) : Emitted (kindSchema kind) :=
  .plain (List.forall_mem_singleton.mpr ⟨by simp, by simp⟩)

theorem Emitted.presentSchema : Emitted presentSchema := by
  refine .object ?_ ?_ ?_ ?_ <;> simp [JsonShape.kindSchema]

theorem Emitted.outcomeSchema {flag : Bool} {member : String} {schema : Json}
    (emitted : Emitted schema) : Emitted (outcomeSchema flag member schema) := by
  have flagged : Emitted (.object [("const", .bool flag)]) :=
    .plain (List.forall_mem_singleton.mpr ⟨by simp, by simp⟩)
  refine .object (fun properties clause => ?_) ?_ ?_ ?_
  · obtain rfl : properties = [("ok", .object [("const", .bool flag)]), (member, schema)] := by
      simpa using clause
    exact List.forall_mem_cons.mpr ⟨flagged, List.forall_mem_singleton.mpr emitted⟩
  all_goals simp

/-! ### From membership to other readings -/

variable {engine}

/-- A clause with no schema inside holds in the other reading if its bounds do. -/
theorem holdsPlain_of_membership {reading : Reading} {keyword : String} {content value : Json}
    (held : holdsPlain engine .membership keyword content value = true)
    (minimum : ∀ bound number, keyword = "minimum" → content = .number bound →
      value = .number number → Number.roundedAtMost bound number = true →
      reading.atMost bound number = true)
    (maximum : ∀ bound number, keyword = "maximum" → content = .number bound →
      value = .number number → Number.roundedAtMost number bound = true →
      reading.atMost number bound = true) :
    holdsPlain engine reading keyword content value = true := by
  unfold holdsPlain at held ⊢
  split at held
  · exact held
  · exact held
  · exact held
  · exact held
  · rename_i bound
    cases value with
    | number number => exact minimum bound number rfl rfl rfl held
    | null | bool | string | array | object => rfl
  · rename_i bound
    cases value with
    | number number => exact maximum bound number rfl rfl rfl held
    | null | bool | string | array | object => rfl
  · exact held

/-- A value validates against a schema of this form in a reading that is as tolerant of it as
membership. -/
theorem Emitted.validates_of_membership {reading : Reading} {schema : Json}
    (emitted : Emitted schema) {value : Json} (tolerates : Tolerates engine reading schema value)
    (valid : validates engine .membership schema value = true) :
    validates engine reading schema value = true := by
  induction emitted generalizing value with
  | @object clauses _ _ negated bounds ofProperties ofBranches =>
    rw [validates_object_iff] at valid ⊢
    intro clause member
    have held := valid clause member
    fun_cases holds engine reading clause value with
    | case1 properties members =>
      rw [holds_properties_iff] at held
      refine validatesMembers_iff.mpr fun property declared inner found => ?_
      have within :
          applied engine property.2 inner ⊆ applied engine (.object clauses) (.object members) :=
        fun entry deeper => mem_applied_inside member (mem_appliedMembers declared found deeper)
      exact ofProperties properties member property declared (tolerates.inside within)
        (held property declared inner found)
    | case2 => rfl
    | case3 branches =>
      rw [holds_oneOf] at held
      obtain ⟨branch, offered, valid⟩ := countValid_pos_iff.mp (of_decide_eq_true held)
      have within : applied engine branch value ⊆ applied engine (.object clauses) value :=
        fun entry deeper => mem_applied_inside member (mem_appliedBranches offered valid deeper)
      have validated := ofBranches branches member branch offered (tolerates.inside within) valid
      exact tolerates.choice branches value (mem_applied_here member)
        (countValid_pos_iff.mpr ⟨branch, offered, validated⟩)
    | case4 absence =>
      obtain rfl := negated absence member
      rw [holds_not, validates_kindSchema] at held
      rwa [validates_kindSchema]
    | case5 keyword content =>
      have plain : holds engine .membership (keyword, content) value =
          holdsPlain engine .membership keyword content value := by
        rw [holds] <;> assumption
      rw [plain] at held
      refine holdsPlain_of_membership held ?_ ?_
      · rintro bound number rfl rfl rfl
        obtain ⟨rounded, rfl⟩ := bounds _ _ member
        exact tolerates.minimum rounded number (mem_applied_here member)
      · rintro bound number rfl rfl rfl
        obtain ⟨rounded, rfl⟩ := bounds _ _ member
        exact tolerates.maximum rounded number (mem_applied_here member)

end Schema

end JsonShape
