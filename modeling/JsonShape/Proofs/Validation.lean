/-
This file says what the keywords mean of which the schemas of descriptors consist, and
when a value validates against a schema. A schema is an object whose members are
clauses, and a value validates if every clause holds of it. `title` and unknown
keywords ask for nothing; a clause of the wrong form holds of no value.

Two points are left to a reading: how many branches of a `oneOf` may validate, and
how two numbers are compared. In the standard reading exactly one branch validates
and numbers are compared by value. Membership reads a schema differently: a union
takes what at least one of its variants takes, and bounds are compared after
rounding to floats. What a pattern matches, an engine says in all readings alike.
-/

import JsonShape.Descriptor.Standard
import JsonShape.Pattern.Engine

namespace JsonShape

/-! ### Comparing numbers -/

namespace Number

/-- The value in units of 2⁻¹⁰⁷⁴, which divide every number evenly. -/
def units : Number → Int
  | integer whole => whole.value * unitsOfOne
  | float real => real.signedUnits

/-- Order by value. -/
def atMost (first second : Number) : Bool := decide (first.units ≤ second.units)

/-- Order by value after both numbers have been rounded to floats. -/
def roundedAtMost (first second : Number) : Bool :=
  match first.toBinary64?, second.toBinary64? with
  | some first, some second => first.le second
  | _, _ => false

end Number

namespace Schema

/-! ### Readings -/

/-- How `oneOf` and the bounds are read: whether so many branches may validate, and whether a
number is at most another one. -/
structure Reading where
  choice : Nat → Bool
  atMost : Number → Number → Bool

namespace Reading

/-- The meaning of the keywords: one branch validates, and numbers are compared by value. -/
def standard : Reading := ⟨fun count => count == 1, Number.atMost⟩

/-- The standard meaning, but for `oneOf`, of which more than one branch may validate. -/
def inclusive : Reading := ⟨fun count => decide (0 < count), Number.atMost⟩

/-- The reading of membership: more than one branch may validate, and numbers are rounded before
they are compared. -/
def membership : Reading := ⟨fun count => decide (0 < count), Number.roundedAtMost⟩

end Reading

/-! ### Clauses without a schema inside -/

/-- The word for the kind of a value. -/
def kindOf : Json → String
  | .null => "null"
  | .bool _ => "boolean"
  | .number _ => "number"
  | .string _ => "string"
  | .array _ => "array"
  | .object _ => "object"

/-- Whether the value, if it is an object, has the member. -/
def hasMember (value name : Json) : Bool :=
  match name, value with
  | .string name, .object members => Table.has members name
  | .string _, _ => true
  | _, _ => false

variable (engine : PatternEngine)

/-- Whether the pattern that the text spells matches the value, if that is a string. -/
def matchesPattern (source : String) (value : Json) : Bool :=
  match engine.compile source, value with
  | .ok matchesIn, .string text => matchesIn text
  | .ok _, _ => true
  | .error _, _ => false

/-- The keywords whose clauses have to be of a certain form. -/
def formed : List String :=
  ["type", "required", "pattern", "minimum", "maximum", "properties", "oneOf"]

/-- Whether a clause holds that has no schema inside. -/
def holdsPlain (reading : Reading) (keyword : String) (content value : Json) : Bool :=
  match keyword, content with
  | "type", .string kind => kind == kindOf value
  | "const", content => value.equal content
  | "required", .array names => names.all (hasMember value)
  | "pattern", .string source => matchesPattern engine source value
  | "minimum", .number bound =>
      match value with
      | .number number => reading.atMost bound number
      | _ => true
  | "maximum", .number bound =>
      match value with
      | .number number => reading.atMost number bound
      | _ => true
  | keyword, _ => !(formed.contains keyword)

/-! ### Schemas -/

mutual

/-- Whether the value validates against the schema. -/
def validates (reading : Reading) : Json → Json → Bool
  | .object clauses, value => validatesAll reading clauses value
  | _, _ => false
termination_by structural schema => schema

/-- Whether every clause holds of the value. -/
def validatesAll (reading : Reading) : List (String × Json) → Json → Bool
  | [], _ => true
  | clause :: rest, value => holds reading clause value && validatesAll reading rest value
termination_by structural clauses => clauses

/-- Whether the clause holds of the value. -/
def holds (reading : Reading) : String × Json → Json → Bool
  | ("properties", .object properties), .object members =>
      validatesMembers reading properties members
  | ("properties", .object _), _ => true
  | ("oneOf", .array branches), value => reading.choice (countValid reading branches value)
  | ("not", schema), value => !validates reading schema value
  | (keyword, content), value => holdsPlain engine reading keyword content value
termination_by structural clause => clause

/-- Whether each of the members that are there validates against the schema of its property. -/
def validatesMembers (reading : Reading) : List (String × Json) → List (String × Json) → Bool
  | [], _ => true
  | property :: rest, members =>
      validatesProperty reading property members && validatesMembers reading rest members
termination_by structural properties => properties

/-- Whether the member of the name of the property validates, if it is there. -/
def validatesProperty (reading : Reading) : String × Json → List (String × Json) → Bool
  | (name, schema), members =>
      match Table.find? members name with
      | some content => validates reading schema content
      | none => true
termination_by structural property => property

/-- How many of the schemas the value validates against. -/
def countValid (reading : Reading) : List Json → Json → Nat
  | [], _ => 0
  | branch :: rest, value =>
      (if validates reading branch value then 1 else 0) + countValid reading rest value
termination_by structural branches => branches

end

/-! ### Clauses, properties and branches one by one -/

section Each

variable {engine} {reading : Reading} {value : Json}

theorem validatesAll_iff {clauses : List (String × Json)} :
    validatesAll engine reading clauses value = true ↔
      ∀ clause ∈ clauses, holds engine reading clause value = true := by
  induction clauses with
  | nil => simp [validatesAll]
  | cons clause rest inductionHypothesis =>
    rw [validatesAll, Bool.and_eq_true, inductionHypothesis, List.forall_mem_cons]

/-- A value validates against a schema if each of its clauses holds. -/
theorem validates_object_iff {clauses : List (String × Json)} :
    validates engine reading (.object clauses) value = true ↔
      ∀ clause ∈ clauses, holds engine reading clause value = true := by
  rw [validates, validatesAll_iff]

theorem validatesProperty_iff {property : String × Json} {members : List (String × Json)} :
    validatesProperty engine reading property members = true ↔
      ∀ content, Table.find? members property.1 = some content →
        validates engine reading property.2 content = true := by
  obtain ⟨name, schema⟩ := property
  rw [validatesProperty]
  cases found : Table.find? members name with
  | none => simp
  | some content => simp

theorem validatesMembers_iff {properties members : List (String × Json)} :
    validatesMembers engine reading properties members = true ↔
      ∀ property ∈ properties, ∀ content, Table.find? members property.1 = some content →
        validates engine reading property.2 content = true := by
  induction properties with
  | nil => simp [validatesMembers]
  | cons property rest inductionHypothesis =>
    rw [validatesMembers, Bool.and_eq_true, validatesProperty_iff, inductionHypothesis,
      List.forall_mem_cons]

theorem countValid_pos_iff {branches : List Json} :
    0 < countValid engine reading branches value ↔
      ∃ branch ∈ branches, validates engine reading branch value = true := by
  induction branches with
  | nil => simp [countValid]
  | cons branch rest inductionHypothesis =>
    simp only [countValid, List.mem_cons, exists_eq_or_imp, ← inductionHypothesis]
    by_cases valid : validates engine reading branch value = true
    · simp only [valid, if_true, true_or, iff_true]
      omega
    · simp only [valid, Bool.false_eq_true, if_false, false_or, Nat.zero_add]

theorem holds_properties_iff {properties members : List (String × Json)} :
    holds engine reading ("properties", .object properties) (.object members) = true ↔
      ∀ property ∈ properties, ∀ content, Table.find? members property.1 = some content →
        validates engine reading property.2 content = true := by
  rw [holds, validatesMembers_iff]

theorem holds_oneOf {branches : List Json} :
    holds engine reading ("oneOf", .array branches) value =
      reading.choice (countValid engine reading branches value) := by
  rw [holds]

theorem holds_not {schema : Json} :
    holds engine reading ("not", schema) value = !validates engine reading schema value := by
  rw [holds]

theorem holds_title {content : Json} : holds engine reading ("title", content) value = true := by
  simp [holds, holdsPlain, formed]

theorem holds_type {kind : String} :
    holds engine reading ("type", .string kind) value = (kind == kindOf value) := by
  simp [holds, holdsPlain]

theorem holds_const {content : Json} :
    holds engine reading ("const", content) value = value.equal content := by
  simp [holds, holdsPlain]

theorem holds_required {names : List Json} :
    holds engine reading ("required", .array names) value = names.all (hasMember value) := by
  simp [holds, holdsPlain]

theorem holds_pattern {source : String} :
    holds engine reading ("pattern", .string source) value =
      matchesPattern engine source value := by
  simp [holds, holdsPlain]

theorem holds_minimum {bound number : Number} :
    holds engine reading ("minimum", .number bound) (.number number) =
      reading.atMost bound number := by
  simp [holds, holdsPlain]

theorem holds_maximum {bound number : Number} :
    holds engine reading ("maximum", .number bound) (.number number) =
      reading.atMost number bound := by
  simp [holds, holdsPlain]

end Each

end Schema

end JsonShape
