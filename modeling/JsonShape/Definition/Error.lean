/-
This file lists what can be wrong with a definition: with its names, with the types
it refers to, with the bounds of a refinement, or with the text it was read from.
-/

import JsonShape.Json.Fault

namespace JsonShape

/-- What is wrong with a definition. -/
inductive DefinitionFault where
  | blankName
  | blankField
  | noVariants
  | alreadyRegistered
  | notMapping (found : Json)
  | notFieldSpec (found : Json)
  | unknownType (name : String)
  | unknownBase (name : String)
  | badPattern (reason : String)
  | crossedBounds (minimum maximum : Binary64)
  | unreadable (path : List Step) (fault : Fault) (position : Position)

/-- The wording of the fault. -/
def DefinitionFault.message : DefinitionFault → String
  | blankName => "a type needs a non-blank name"
  | blankField => "field names must be non-blank"
  | noVariants => "a union needs at least one variant"
  | alreadyRegistered => "name is already registered"
  | notMapping found => "expected a mapping of field specs, found " ++ found.text
  | notFieldSpec found => "field spec must be a type name or a mapping, found " ++ found.text
  | unknownType name => "unknown type " ++ ticked name
  | unknownBase name => "unknown base type " ++ ticked name
  | badPattern reason => "bad pattern: " ++ reason
  | crossedBounds minimum maximum =>
      "minimum " ++ String.ofList minimum.plainText ++ " exceeds maximum " ++
        String.ofList maximum.plainText
  | unreadable path fault position =>
      "at JSON path " ++ pathText path ++ " → " ++ fault.message ++ " at line " ++
        toString position.line ++ " column " ++ toString position.column

/-- A fault of the definition of that name. -/
structure DefinitionError where
  name : String
  fault : DefinitionFault

/-- The wording of the error. -/
def DefinitionError.message (error : DefinitionError) : String :=
  "bad definition for " ++ ticked error.name ++ ": " ++ error.fault.message

end JsonShape
