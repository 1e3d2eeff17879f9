/-
This file describes descriptors by schemas. A scalar carries its own schema, or is
known by its title alone; records, variants and sums are put together from the
schemas of their parts. A variant's name takes the place of whatever title its
payload has.
-/

import JsonShape.Descriptor.Basic

namespace JsonShape

/-- The schema with a member written into it, if it is an object. -/
def Json.withMember (schema : Json) (name : String) (content : Json) : Json :=
  match schema with
  | .object members => .object (Table.insert members name content)
  | other => other

/-- The clause that lists what a record requires, unless it requires nothing. -/
def requiredClause (fields : List (String × Descriptor)) : List (String × Json) :=
  if fields.isEmpty then []
  else [("required", .array (fields.map fun field => .string field.1))]

namespace Descriptor

mutual

/-- The schema of a descriptor. -/
def schema : Descriptor → Json
  | scalar _ _ _ _ (some schema) => schema
  | scalar _ name _ _ none => .object [("title", .string name)]
  | record _ name fields =>
      .object ([("title", .string name), ("type", .string "object"),
        ("properties", .object (schemaOfFields fields))] ++ requiredClause fields)
  | variant _ name payload => payload.schema.withMember "title" (.string name)
  | sum _ name variants =>
      .object [("title", .string name), ("oneOf", .array (schemaOfVariants variants))]

/-- The schemas of the fields under their names. -/
def schemaOfFields : List (String × Descriptor) → List (String × Json)
  | [] => []
  | (field, type) :: rest => (field, type.schema) :: schemaOfFields rest

/-- The schemas of the variants. -/
def schemaOfVariants : List (String × Descriptor) → List Json
  | [] => []
  | (_, type) :: rest => type.schema :: schemaOfVariants rest

end

end Descriptor

end JsonShape
