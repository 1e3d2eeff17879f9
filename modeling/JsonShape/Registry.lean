/-
This file holds the registry: an ordered table of names with the types and unions
they stand for. Definition files are loaded into it declaration by declaration, each
of which may refer to names that were registered before it. Loading is all or
nothing, because its result is a new registry and the old one stays as it was. The
patterns of refinements are left to an engine.
-/

import JsonShape.Definition.Declaration
import JsonShape.Definition.Field
import JsonShape.Definition.Reader
import JsonShape.Descriptor.Outcome
import JsonShape.Descriptor.Schema
import JsonShape.Pattern.Engine

namespace JsonShape

/-! ### Entries -/

/-- What a name stands for. -/
inductive Entry where
  | type (content : Descriptor)
  | union (content : Union)

namespace Entry

/-- The entry as a type. -/
def asType : Entry → Descriptor
  | type content => content
  | union content => content.asType

end Entry

/-- Names and what they stand for, in the order of registration. -/
structure Registry where
  entries : Table Entry

namespace Registry

/-- The registry without names. -/
def empty : Registry := ⟨[]⟩

/-- The registry of the standard types and unions. -/
def standard : Registry :=
  ⟨(Standard.all.map fun type => (type.name, Entry.type type)) ++
    [Maybe.union, Result.union].map fun union => (union.name, Entry.union union)⟩

/-- What a name stands for. -/
def find? (registry : Registry) (name : String) : Option Entry :=
  Table.find? registry.entries name

/-- The type a name stands for; a union counts as a type. -/
def type? (registry : Registry) (name : String) : Option Descriptor :=
  (registry.find? name).map Entry.asType

/-- The union a name stands for. -/
def union? (registry : Registry) (name : String) : Option Union :=
  match registry.find? name with
  | some (.union content) => some content
  | _ => none

/-- The registered names, in order. -/
def names (registry : Registry) : List String := Table.keys registry.entries

/-- Registers a name that is new. -/
def insert (registry : Registry) (name : String) (entry : Entry) :
    Except DefinitionError Registry :=
  if Table.has registry.entries name then .error ⟨name, .alreadyRegistered⟩
  else .ok ⟨registry.entries ++ [(name, entry)]⟩

/-- Registers a type under its name. -/
def insertType (registry : Registry) (type : Descriptor) : Except DefinitionError Registry :=
  registry.insert type.name (.type type)

/-- Registers a union under its name. -/
def insertUnion (registry : Registry) (union : Union) : Except DefinitionError Registry :=
  registry.insert union.name (.union union)

/-! ### Fields written as JSON -/

mutual

/-- A field is declared by the name of a registered type or by a mapping of nested fields. -/
def fieldSpec (registry : Registry) (owner : String) : Json → Except DefinitionError FieldSpec
  | .string name =>
      match registry.type? name with
      | some type => .ok (.type type)
      | none => .error ⟨owner, .unknownType name⟩
  | .object members => do return .record (← fieldSpecsOf registry owner members)
  | other => .error ⟨owner, .notFieldSpec other⟩

/-- The declared fields of a mapping, each under its own name in the owner's. -/
def fieldSpecsOf (registry : Registry) (owner : String) :
    List (String × Json) → Except DefinitionError (List (String × FieldSpec))
  | [] => .ok []
  | (key, field) :: rest => do
      let spec ← fieldSpec registry (nestedName owner key) field
      let specs ← fieldSpecsOf registry owner rest
      return (key, spec) :: specs

end

/-- The body of a definition has to be a mapping. -/
def fieldSpecs (registry : Registry) (owner : String) :
    Json → Except DefinitionError FieldSpecs
  | .object members => fieldSpecsOf registry owner members
  | other => .error ⟨owner, .notMapping other⟩

/-! ### Refinements -/

/-- Whether a number is given and lies where the test wants it. -/
def boundHolds (bound : Option Binary64) (test : Binary64 → Binary64 → Bool) (value : Json) :
    Bool :=
  match bound with
  | none => true
  | some bound =>
      match value.binary64? with
      | some number => test bound number
      | none => false

/-- Whether the pattern, if there is one, matches the text of a string. -/
def patternHolds (pattern : Option Matcher) (value : Json) : Bool :=
  match pattern with
  | none => true
  | some matchesIn =>
      match value.string? with
      | some text => matchesIn text
      | none => false

/-- The test of a refinement: the base accepts the value, the pattern matches it, and it lies
between the bounds. -/
def refinedPredicate (base : Descriptor) (pattern : Option Matcher)
    (minimum maximum : Option Binary64) : Predicate := fun value =>
  base.accepts value && patternHolds pattern value &&
    boundHolds minimum (fun bound number => bound.le number) value &&
    boundHolds maximum (fun bound number => number.le bound) value

/-- A member of a schema that is written only if its content is given. -/
def optionalMember (schema : Json) (name : String) (content : Option Json) : Json :=
  match content with
  | some content => schema.withMember name content
  | none => schema

/-- The schema of a refinement: that of its base under the new title and with the clauses that the
refinement adds. -/
def refinedSchema (name : String) (base : Descriptor) (refinement : Refinement) : Json :=
  let titled := base.schema.withMember "title" (.string name)
  let patterned := optionalMember titled "pattern" (refinement.pattern.map .string)
  let bounded := optionalMember patterned "minimum"
    (refinement.minimum.map fun bound => .number (.float bound))
  optionalMember bounded "maximum" (refinement.maximum.map fun bound => .number (.float bound))

/-- Whether both bounds are given and no number lies between them. -/
def crossed? (refinement : Refinement) : Option (Binary64 × Binary64) :=
  match refinement.minimum, refinement.maximum with
  | some minimum, some maximum => if minimum.le maximum then none else some (minimum, maximum)
  | _, _ => none

variable (engine : PatternEngine)

/-- Compiles the pattern of a refinement, if it has one. -/
def compilePattern (name : String) (refinement : Refinement) :
    Except DefinitionError (Option Matcher) :=
  match refinement.pattern with
  | none => .ok none
  | some source =>
      match engine.compile source with
      | .ok pattern => .ok (some pattern)
      | .error reason => .error ⟨name, .badPattern reason⟩

/-- The scalar of a refinement. -/
def refine (registry : Registry) (name : String) (refinement : Refinement) (supply : Supply) :
    Except DefinitionError (Descriptor × Supply) :=
  match registry.type? refinement.base with
  | none => .error ⟨name, .unknownBase refinement.base⟩
  | some base => do
      let pattern ← compilePattern engine name refinement
      match crossed? refinement with
      | some (minimum, maximum) => .error ⟨name, .crossedBounds minimum maximum⟩
      | none =>
          return identified supply (.scalar · name
            (refinedPredicate base pattern refinement.minimum refinement.maximum) none
            (some (refinedSchema name base refinement)))

/-! ### Loading -/

/-- Registers what one declaration declares. -/
def declare (registry : Registry) (name : String) (declaration : Declaration)
    (supply : Supply) : Except DefinitionError (Registry × Supply) :=
  match declaration with
  | .data spec => do
      let fields ← registry.fieldSpecs name spec
      let (type, supply) ← makeRecord name fields supply
      return (← registry.insertType type, supply)
  | .union spec => do
      let payloads ← registry.fieldSpecs name spec
      let (union, supply) ← makeUnion name payloads supply
      return (← registry.insertUnion union, supply)
  | .refine refinement => do
      let (type, supply) ← registry.refine engine name refinement supply
      return (← registry.insertType type, supply)

/-- Registers the declarations one after the other. -/
def declareAll (registry : Registry) (declarations : List (String × Declaration))
    (supply : Supply) : Except DefinitionError (Registry × Supply) :=
  match declarations with
  | [] => .ok (registry, supply)
  | (name, declaration) :: rest => do
      let (registry, supply) ← registry.declare engine name declaration supply
      registry.declareAll rest supply

/-- The registry after a load, the names that were declared, and the supply that remains. -/
structure Loaded where
  registry : Registry
  names : List String
  supply : Supply

/-- Loads a definition file. -/
def load (registry : Registry) (file : DefinitionFile) (supply : Supply) :
    Except DefinitionError Loaded := do
  let (extended, remaining) ← registry.declareAll engine file.types supply
  return ⟨extended, Table.keys file.types, remaining⟩

/-- Loads the definition file that a text holds. -/
def loadText (registry : Registry) (text : String) (supply : Supply) :
    Except DefinitionError Loaded := do
  registry.load engine (← DefinitionFile.read text) supply

end Registry

end JsonShape
