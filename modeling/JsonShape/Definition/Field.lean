/-
This file turns declared fields into descriptors. A field is declared by a type, by
a raw kind, or by nested fields; the latter become a record of their own, named
after the field with the owner's name in front. Every record, union and variant gets
an identity that was not used before.
-/

import JsonShape.Definition.Error
import JsonShape.Descriptor.Standard
import JsonShape.Descriptor.Union
import JsonShape.Text.Blank

namespace JsonShape

/-- How a field is declared. -/
inductive FieldSpec where
  | type (known : Descriptor)
  | primitive (kind : Primitive)
  | record (fields : List (String × FieldSpec))

/-- A declared table of fields, of a record or of a union. -/
abbrev FieldSpecs := Table FieldSpec

/-- The name of what is nested in an owner under a key. -/
def nestedName (owner key : String) : String := owner ++ "." ++ key

/-- Takes an identity for a descriptor that is built from it. -/
def identified (supply : Supply) (build : Identity → Descriptor) : Descriptor × Supply :=
  let (identity, remaining) := supply.draw
  (build identity, remaining)

mutual

/-- The descriptor of a declared field that bears the given name. -/
def FieldSpec.resolve (name : String) :
    FieldSpec → Supply → Except DefinitionError (Descriptor × Supply)
  | .type known, supply => .ok (known, supply)
  | .primitive kind, supply => .ok (kind.descriptor, supply)
  | .record fields, supply =>
      if blank name then .error ⟨name, .blankName⟩
      else do
        let (resolved, supply) ← resolveEach name fields supply
        return identified supply (.record · name resolved)

/-- The types of the fields of an owner, one after the other. -/
def resolveEach (owner : String) :
    List (String × FieldSpec) → Supply →
      Except DefinitionError (List (String × Descriptor) × Supply)
  | [], supply => .ok ([], supply)
  | (key, spec) :: rest, supply =>
      if blank key then .error ⟨owner, .blankField⟩
      else do
        let (type, supply) ← spec.resolve (nestedName owner key) supply
        let (types, supply) ← resolveEach owner rest supply
        return ((key, type) :: types, supply)

end

/-- The types of the fields of an owner whose name is not blank. -/
def resolveFields (owner : String) (fields : FieldSpecs) (supply : Supply) :
    Except DefinitionError (List (String × Descriptor) × Supply) :=
  if blank owner then .error ⟨owner, .blankName⟩ else resolveEach owner fields supply

/-- A record with the declared fields. -/
def makeRecord (name : String) (fields : FieldSpecs) (supply : Supply) :
    Except DefinitionError (Descriptor × Supply) :=
  (FieldSpec.record fields).resolve name supply

/-- A variant descriptor for each payload. -/
def makeVariants : List (String × Descriptor) → Supply → List (String × Descriptor) × Supply
  | [], supply => ([], supply)
  | (name, payload) :: rest, supply =>
      let (variant, supply) := identified supply (.variant · name payload)
      let (variants, supply) := makeVariants rest supply
      ((name, variant) :: variants, supply)

/-- A union with the declared payloads. -/
def makeUnion (name : String) (payloads : FieldSpecs) (supply : Supply) :
    Except DefinitionError (Union × Supply) :=
  if payloads.isEmpty then .error ⟨name, .noVariants⟩
  else do
    let (resolved, supply) ← resolveFields name payloads supply
    let (variants, supply) := makeVariants resolved supply
    let (identity, supply) := supply.draw
    return (⟨identity, name, variants⟩, supply)

/-- A scalar with a test and an optional normalizer. -/
def makeScalar (name : String) (predicate : Predicate) (normalizer : Option Normalizer)
    (supply : Supply) : Descriptor × Supply :=
  identified supply (.scalar · name predicate normalizer none)

end JsonShape
