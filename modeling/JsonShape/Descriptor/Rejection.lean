/-
This file holds the two reasons for which a value is rejected during construction:
it fails the test of a type, or it lacks a field of a record. A rejection remembers
the fields that lead from the value at hand to the failing one, outermost first.
-/

import JsonShape.Json.Printer

namespace JsonShape

/-- Why a value could not be constructed. -/
inductive Rejection where
  | invalid (expected : String) (value : Json) (path : List String)
  | missing (expected : String) (field : String) (path : List String)

namespace Rejection

/-- The fields that lead to the failure. -/
def path : Rejection → List String
  | invalid _ _ path => path
  | missing _ _ path => path

/-- The rejection as seen from the record that holds the value under a field. -/
def within (rejection : Rejection) (field : String) : Rejection :=
  match rejection with
  | invalid expected value path => invalid expected value (field :: path)
  | missing expected name path => missing expected name (field :: path)

/-- The wording of a path behind a message. -/
def place (path : List String) : String :=
  if path.isEmpty then "" else " (at " ++ ".".intercalate path ++ ")"

/-- The wording of a rejection. -/
def message : Rejection → String
  | invalid expected value path =>
      value.text ++ " is not a valid " ++ expected ++ place path
  | missing expected field path =>
      expected ++ " requires field `" ++ field ++ "`" ++ place path

end Rejection

end JsonShape
