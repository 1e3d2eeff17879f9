/-
This file follows pointers into JSON values. A pointer is empty, or a row of steps
with a slash before each; in a step `~1` stands for a slash and `~0` for a tilde. A
step is the name of a member in an object, and an index without sign or leading zero
in an array.
-/

import JsonShape.Json.Basic
import JsonShape.Text.Pieces

namespace JsonShape

/-- A step of a pointer with its escapes resolved. -/
def unescapeStep : List Char → List Char
  | '~' :: '1' :: rest => '/' :: unescapeStep rest
  | '~' :: '0' :: rest => '~' :: unescapeStep rest
  | character :: rest => character :: unescapeStep rest
  | [] => []

/-- The index that a step spells out. -/
def indexOfStep? (step : List Char) : Option Nat :=
  match step with
  | [] => none
  | ['0'] => some 0
  | '0' :: _ => none
  | digits =>
      if digits.all Char.isDigit then
        some (digits.foldl (fun value digit => value * 10 + (digit.toNat - '0'.toNat)) 0)
      else none

namespace Json

/-- What one step leads to. -/
def step? (value : Json) (step : List Char) : Option Json :=
  match value with
  | object members => Table.find? members (String.ofList step)
  | array items =>
      match indexOfStep? step with
      | some index => items[index]?
      | none => none
  | _ => none

/-- What several steps lead to. -/
def follow? (value : Json) : List (List Char) → Option Json
  | [] => some value
  | step :: steps =>
      match value.step? step with
      | some next => next.follow? steps
      | none => none

/-- What a pointer leads to. -/
def pointer? (value : Json) (pointer : String) : Option Json :=
  match pointer.toList with
  | [] => some value
  | '/' :: steps => value.follow? ((pieces '/' steps).map unescapeStep)
  | _ => none

end Json

end JsonShape
