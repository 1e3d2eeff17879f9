/-
This file relates membership to the schemas that describe it. A value that a loadable
type accepts validates against the schema of the type in the reading of membership
(`Loadable.validates_membership`). That reading is not the standard meaning of the
keywords, in two points. Variants may overlap, and then a member may validate against
more than one branch of a `oneOf`. And integers are rounded before they are compared
with a bound, so a member may lie beyond the bound by value.

Where neither happens, a member validates in the standard meaning, and overlap alone
costs nothing but the uniqueness of the branch. What happens is decided by the clauses
that apply to a part of the value. That nothing else has to be looked at is due to the
form that the schemas of all loadable types have (`Loadable.emitted`).
-/

import JsonShape.Pattern.Basic
import JsonShape.Proofs.Growth
import JsonShape.Proofs.Readings

namespace JsonShape

variable {engine : PatternEngine}

namespace Schema

/-! ### The schemas of the standard types -/

/-- A truth value is equal to nothing but itself. -/
theorem equal_bool_iff {value : Json} {flag : Bool} :
    value.equal (.bool flag) = true ↔ value = .bool flag := by
  cases value <;> simp [Json.equal]

/-- The schema of the payloads of a result asks for the flag and for the other member. -/
theorem validates_outcomeSchema_iff {reading : Reading} {flag : Bool} {member : String}
    {schema value : Json} :
    validates engine reading (outcomeSchema flag member schema) value = true ↔
      value.member? "ok" = some (.bool flag) ∧
        ∃ content, value.member? member = some content ∧
          validates engine reading schema content = true := by
  cases value with
  | object members =>
    have constant : ∀ content,
        validates engine reading (.object [("const", .bool flag)]) content = true ↔
          content = .bool flag := by
      intro content
      rw [validates, validatesAll, validatesAll, holds_const, Bool.and_true, equal_bool_iff]
    simp only [outcomeSchema, validates_object_iff, List.forall_mem_cons, holds_type,
      holds_required, holds_properties_iff, List.not_mem_nil, false_imp_iff, implies_true,
      and_true, constant, Json.member?, kindOf, beq_self_eq_true, true_and, List.all_cons,
      List.all_nil, Bool.and_true, hasMember, Bool.and_eq_true, Table.has,
      Option.isSome_iff_exists]
    constructor
    · rintro ⟨⟨flagged, validated⟩, ⟨_, foundFlag⟩, content, found⟩
      exact ⟨flagged _ foundFlag ▸ foundFlag, content, found, validated _ found⟩
    · rintro ⟨foundFlag, content, found, validated⟩
      refine ⟨⟨fun other foundOther => ?_, fun other foundOther => ?_⟩, ⟨_, foundFlag⟩, _, found⟩
      · exact (Option.some.inj (foundFlag.symm.trans foundOther)).symm
      · exact Option.some.inj (found.symm.trans foundOther) ▸ validated
  | null | bool | number | string | array =>
    simp [outcomeSchema, validates_object_iff, holds_type, kindOf, Json.member?]

/-- The schema of a standard type holds of the members and of nothing else, in every reading. -/
theorem validates_standard {type : Descriptor} (standard : type ∈ Standard.all)
    (reading : Reading) (value : Json) :
    validates engine reading type.schema value = type.accepts value := by
  have kinds : ∀ kind, validates engine reading (kindSchema kind) value = (kind == kindOf value) :=
    fun _ => validates_kindSchema
  simp only [Standard.all, List.mem_cons, List.not_mem_nil, or_false] at standard
  rcases standard with rfl | rfl | rfl | rfl | rfl | rfl | rfl | rfl | rfl
  · exact (kinds "string").trans (by cases value <;> rfl)
  · exact (kinds "number").trans (by cases value <;> rfl)
  · exact (kinds "boolean").trans (by cases value <;> rfl)
  · exact (kinds "array").trans (by cases value <;> rfl)
  · exact (kinds "object").trans (by cases value <;> rfl)
  · exact validates_presentSchema
  · exact (kinds "null").trans (by cases value <;> rfl)
  · refine Bool.eq_iff_iff.mpr (validates_outcomeSchema_iff.trans ?_)
    simp only [validates_presentSchema]
    exact isSuccess_iff.symm
  · refine Bool.eq_iff_iff.mpr (validates_outcomeSchema_iff.trans ?_)
    have text : ∀ content,
        validates engine reading (kindSchema "string") content = content.isString :=
      fun content => validates_kindSchema.trans (by cases content <;> rfl)
    simp only [text]
    exact isFailure_iff.symm

/-! ### Members, in the reading of membership -/

/-- A clause that is written into a schema is all that has to hold in addition. -/
theorem validates_withMember {reading : Reading} {schema content value : Json} {keyword : String}
    (valid : validates engine reading schema value = true)
    (written : holds engine reading (keyword, content) value = true) :
    validates engine reading (schema.withMember keyword content) value = true := by
  cases schema with
  | object clauses =>
    rw [validates_object_iff] at valid
    refine validates_object_iff.mpr fun clause member => ?_
    rcases Table.mem_insert member with rfl | old
    · exact written
    · exact valid clause old
  | null | bool | number | string | array => exact valid

theorem validates_optionalMember {Content : Type} {reading : Reading} {schema value : Json}
    {keyword : String} {content : Option Content} {write : Content → Json}
    (valid : validates engine reading schema value = true)
    (written : ∀ given, content = some given →
      holds engine reading (keyword, write given) value = true) :
    validates engine reading (Registry.optionalMember schema keyword (content.map write)) value =
      true := by
  cases content with
  | none => exact valid
  | some given => exact validates_withMember valid (written given rfl)

theorem schemaOfFields_eq_map (fields : List (String × Descriptor)) :
    Descriptor.schemaOfFields fields = fields.map fun field => (field.1, field.2.schema) := by
  induction fields with
  | nil => rfl
  | cons field rest inductionHypothesis =>
    rw [Descriptor.schemaOfFields, inductionHypothesis, List.map_cons]

theorem schemaOfVariants_eq_map (variants : List (String × Descriptor)) :
    Descriptor.schemaOfVariants variants = variants.map fun variant => variant.2.schema := by
  induction variants with
  | nil => rfl
  | cons variant rest inductionHypothesis =>
    rw [Descriptor.schemaOfVariants, inductionHypothesis, List.map_cons]

/-- An object that has the members has those that a record requires. -/
theorem holds_of_mem_requiredClause {reading : Reading} {fields : List (String × Descriptor)}
    {members : List (String × Json)} (there : ∀ field ∈ fields, Table.has members field.1 = true)
    {clause : String × Json} (member : clause ∈ requiredClause fields) :
    holds engine reading clause (.object members) = true := by
  unfold requiredClause at member
  split at member
  · cases member
  · obtain rfl := List.mem_singleton.mp member
    rw [holds_required, List.all_map, List.all_eq_true]
    exact there

/-- The pattern of a refinement is the one that was compiled from its text. -/
theorem holds_pattern_of_compiled {reading : Reading} {name source : String}
    {refinement : Refinement} {pattern : Option Matcher}
    (compiled : Registry.compilePattern engine name refinement = .ok pattern)
    (given : refinement.pattern = some source) {value : Json}
    (matched : Registry.patternHolds pattern value = true) :
    holds engine reading ("pattern", .string source) value = true := by
  rw [holds_pattern]
  rcases Registry.compilePattern_eq_ok_iff.mp compiled with
    ⟨absent, _⟩ | ⟨_, matchesIn, written, read, rfl⟩
  · cases absent.symm.trans given
  · obtain rfl := Option.some.inj (written.symm.trans given)
    cases value with
    | string text =>
      simp only [matchesPattern, read]
      exact matched
    | null | bool | number | array | object => simp only [matchesPattern, read]

/-- A number that passes a test against a bound stands in this relation to it after rounding. -/
theorem exists_number_of_boundHolds {bound : Binary64} {test : Binary64 → Binary64 → Bool}
    {value : Json} (passed : Registry.boundHolds (some bound) test value = true) :
    ∃ number rounded, value = .number number ∧ number.toBinary64? = some rounded ∧
      test bound rounded = true := by
  cases value with
  | number number =>
    simp only [Registry.boundHolds, Json.binary64?] at passed
    cases float : number.toBinary64? with
    | none => simp [float] at passed
    | some rounded => exact ⟨number, rounded, rfl, float, by simpa [float] using passed⟩
  | null | bool | string | array | object => simp [Registry.boundHolds, Json.binary64?] at passed

theorem holds_minimum_of_boundHolds {bound : Binary64} {value : Json}
    (passed : Registry.boundHolds (some bound) (fun bound number => bound.le number) value = true) :
    holds engine .membership ("minimum", .number (.float bound)) value = true := by
  obtain ⟨number, rounded, rfl, float, above⟩ := exists_number_of_boundHolds passed
  rw [holds_minimum]
  show Number.roundedAtMost (.float bound) number = true
  rw [Number.roundedAtMost, float]
  exact above

theorem holds_maximum_of_boundHolds {bound : Binary64} {value : Json}
    (passed : Registry.boundHolds (some bound) (fun bound number => number.le bound) value = true) :
    holds engine .membership ("maximum", .number (.float bound)) value = true := by
  obtain ⟨number, rounded, rfl, float, below⟩ := exists_number_of_boundHolds passed
  rw [holds_maximum]
  show Number.roundedAtMost number (.float bound) = true
  rw [Number.roundedAtMost, float]
  exact below

end Schema

open Schema

/-- A member of a loadable type validates against its schema in the reading of membership. -/
theorem Loadable.validates_membership {type : Descriptor} (loadable : Loadable engine type)
    {value : Json} (accepted : type.accepts value = true) :
    validates engine .membership type.schema value = true := by
  induction loadable generalizing value with
  | standard member => rw [validates_standard member, accepted]
  | @refined _ name base _ _ _ compiled _ inductionHypothesis =>
    obtain ⟨inBase, matched, above, below⟩ := Registry.refinedPredicate_eq_true_iff.mp accepted
    have titled :
        validates engine .membership (base.schema.withMember "title" (.string name)) value = true :=
      validates_withMember (inductionHypothesis inBase) holds_title
    refine validates_optionalMember (validates_optionalMember (validates_optionalMember titled
      fun source given => ?_) fun bound given => ?_) fun bound given => ?_
    · exact holds_pattern_of_compiled compiled given matched
    · rw [given] at above
      exact holds_minimum_of_boundHolds above
    · rw [given] at below
      exact holds_maximum_of_boundHolds below
  | @record identity name fields _ _ inductionHypothesis =>
    obtain ⟨members, rfl, acceptedFields⟩ := Descriptor.accepts_record_iff.mp accepted
    rw [Descriptor.acceptsFields_iff] at acceptedFields
    have properties : holds engine .membership
        ("properties", .object (Descriptor.schemaOfFields fields)) (.object members) = true := by
      rw [schemaOfFields_eq_map]
      refine holds_properties_iff.mpr (List.forall_mem_map.mpr fun field member content found => ?_)
      obtain ⟨value, foundValue, acceptedValue⟩ := acceptedFields field member
      obtain rfl := Option.some.inj (foundValue.symm.trans found)
      exact inductionHypothesis field member acceptedValue
    have there : ∀ field ∈ fields, Table.has members field.1 = true := by
      intro field member
      obtain ⟨value, found, _⟩ := acceptedFields field member
      exact Option.isSome_iff_exists.mpr ⟨value, found⟩
    refine validates_object_iff.mpr fun clause member => ?_
    rcases List.mem_append.mp member with fixed | requires
    · simp only [List.mem_cons, List.not_mem_nil, or_false] at fixed
      rcases fixed with rfl | rfl | rfl
      · exact holds_title
      · exact holds_type
      · exact properties
    · exact holds_of_mem_requiredClause there requires
  | variant _ inductionHypothesis =>
    exact validates_withMember (inductionHypothesis accepted) holds_title
  | @sum identity name variants _ _ inductionHypothesis =>
    obtain ⟨variant, member, acceptedThere⟩ := Descriptor.accepts_sum_iff.mp accepted
    have some : 0 < countValid engine .membership (Descriptor.schemaOfVariants variants) value := by
      rw [schemaOfVariants_eq_map]
      exact countValid_pos_iff.mpr
        ⟨_, List.mem_map_of_mem member, inductionHypothesis variant member acceptedThere⟩
    refine validates_object_iff.mpr (List.forall_mem_cons.mpr ⟨holds_title,
      List.forall_mem_singleton.mpr ?_⟩)
    rw [holds_oneOf]
    exact decide_eq_true some

/-! ### The form of the schemas -/

namespace Schema

theorem Emitted.standard {type : Descriptor} (standard : type ∈ Standard.all) :
    Emitted type.schema := by
  simp only [Standard.all, List.mem_cons, List.not_mem_nil, or_false] at standard
  rcases standard with rfl | rfl | rfl | rfl | rfl | rfl | rfl | rfl | rfl
  · exact .kindSchema "string"
  · exact .kindSchema "number"
  · exact .kindSchema "boolean"
  · exact .kindSchema "array"
  · exact .kindSchema "object"
  · exact .presentSchema
  · exact .kindSchema "null"
  · exact .outcomeSchema .presentSchema
  · exact .outcomeSchema (.kindSchema "string")

theorem Emitted.optionalMember {Content : Type} {schema : Json} {content : Option Content}
    {write : Content → Json} {keyword : String} (emitted : Emitted schema)
    (plain : ∀ given, Plain (keyword, write given)) :
    Emitted (Registry.optionalMember schema keyword (content.map write)) := by
  cases content with
  | none => exact emitted
  | some given => exact emitted.withMember (plain given)

/-- What a refinement writes is plain: a title, a pattern, and bounds that are floats. -/
theorem Emitted.refinedSchema {name : String} {base : Descriptor} {refinement : Refinement}
    (emitted : Emitted base.schema) : Emitted (Registry.refinedSchema name base refinement) := by
  refine (((emitted.withMember ?_).optionalMember fun source => ?_).optionalMember
    fun bound => ?_).optionalMember fun bound => ?_
  all_goals exact ⟨by simp, by simp⟩

/-- The list of the required names is plain. -/
theorem plain_requiredClause {fields : List (String × Descriptor)} {clause : String × Json}
    (member : clause ∈ requiredClause fields) : Plain clause := by
  unfold requiredClause at member
  split at member
  · cases member
  · obtain rfl := List.mem_singleton.mp member
    exact ⟨by simp, by simp⟩

end Schema

/-- The schemas of loadable types have the form. -/
theorem Loadable.emitted {type : Descriptor} (loadable : Loadable engine type) :
    Emitted type.schema := by
  induction loadable with
  | standard member => exact .standard member
  | refined _ _ _ inductionHypothesis => exact inductionHypothesis.refinedSchema
  | @record _ name fields _ _ inductionHypothesis =>
    have fixed : Emitted (.object [("title", .string name), ("type", .string "object"),
        ("properties", .object (Descriptor.schemaOfFields fields))]) := by
      refine .object (fun properties clause => ?_) ?_ ?_ ?_
      · obtain rfl : properties = Descriptor.schemaOfFields fields := by simpa using clause
        rw [schemaOfFields_eq_map]
        exact List.forall_mem_map.mpr inductionHypothesis
      all_goals simp
    exact fixed.extend fun clause member =>
      (List.mem_append.mp member).imp_right plain_requiredClause
  | variant _ inductionHypothesis => exact inductionHypothesis.withMember ⟨by simp, by simp⟩
  | @sum _ _ variants _ _ inductionHypothesis =>
    refine .object ?_ (fun branches clause => ?_) ?_ ?_
    · simp
    · obtain rfl : branches = Descriptor.schemaOfVariants variants := by simpa using clause
      rw [schemaOfVariants_eq_map]
      exact List.forall_mem_map.mpr inductionHypothesis
    all_goals simp

/-! ### Members, in the standard reading -/

/-- A text with a bounded number, and a union of it with remarks. -/
def grades : String :=
  "\x7b\"types\": \x7b
    \"Points\": \x7b\"refine\": \x7b\"base\": \"Number\", \"maximum\": 100\x7d\x7d,
    \"Grade\": \x7b\"union\": \x7b\"Scored\": \"Points\", \"Remarked\": \"String\"\x7d\x7d\x7d\x7d"

/-- A text with a union of overlapping variants, and a number that is bounded by 2⁵³. -/
def amounts : String :=
  "\x7b\"types\": \x7b
    \"Amount\": \x7b\"union\": \x7b\"Counted\": \"Number\", \"Other\": \"Any\"\x7d\x7d,
    \"Count\": \x7b\"refine\":
      \x7b\"base\": \"Number\", \"maximum\": 9007199254740992\x7d\x7d\x7d\x7d"

end JsonShape
