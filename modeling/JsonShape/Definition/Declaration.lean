/-
This file holds what a definition file declares: an ordered table of names, each
with a record, a union or a refinement. The fields of records and unions are kept as
raw JSON, so that a wrong form is reported as a fault of the definition and not of
the text.
-/

import JsonShape.Json.Basic

namespace JsonShape

/-- A base type narrowed by a pattern for strings and bounds for numbers. -/
structure Refinement where
  base : String
  pattern : Option String
  minimum : Option Binary64
  maximum : Option Binary64
deriving DecidableEq

/-- What is declared under a name. -/
inductive Declaration where
  | data (spec : Json)
  | union (spec : Json)
  | refine (refinement : Refinement)

/-- The declarations of a definition file, in order. -/
structure DefinitionFile where
  types : List (String × Declaration)

end JsonShape
