/-
This file lists what can be wrong with a JSON text: faults of the text itself, and
values that are well formed but not of the form that is asked for. A fault carries
the number of bytes before the point where reading stopped, from which line and
column follow, and the path of keys and indexes that leads to that point.
-/

import JsonShape.Json.Printer
import JsonShape.Text.Quoted

namespace JsonShape

/-! ### Faults -/

/-- What was found where something else was wanted. -/
inductive Found where
  | null
  | boolean (value : Bool)
  | number (value : Number)
  | string (value : String)
  | sequence
  | map
  | bareVariant
deriving DecidableEq

/-- What was wanted where something else was found. -/
inductive Wanted where
  | definitionFile
  | refinement
  | map
  | string
  | float
  | variantContent
deriving DecidableEq

/-- What is wrong with a text. -/
inductive Fault where
  | endInValue
  | endInString
  | endInList
  | endInObject
  | expectedValue
  | expectedWord
  | expectedColon
  | expectedCommaOrBracket
  | expectedCommaOrBrace
  | trailingComma
  | trailingText
  | keyNotString
  | invalidNumber
  | numberOutOfRange
  | invalidEscape
  | controlCharacter
  | loneSurrogate
  | unfinishedSurrogate
  | tooDeep
  | mismatch (found : Found) (wanted : Wanted)
  | unknownField (name : String) (known : List String)
  | unknownVariant (name : String) (known : List String)
  | duplicateField (name : String)
  | missingField (name : String)
  | tooShort (length : Nat) (wanted : Wanted) (size : Nat)
deriving DecidableEq

namespace Found

/-- How a message names what was found. -/
def message : Found → String
  | null => "null"
  | boolean true => "boolean `true`"
  | boolean false => "boolean `false`"
  | number (.integer whole) => "integer `" ++ String.ofList (integerText whole.value) ++ "`"
  | number (.float real) => "floating point `" ++ String.ofList real.jsonText ++ "`"
  | string value => "string " ++ quoted value
  | sequence => "sequence"
  | map => "map"
  | bareVariant => "unit variant"

end Found

/-- How a message names what was wanted. -/
def Wanted.message : Wanted → String
  | definitionFile => "struct DefinitionFile"
  | refinement => "struct Refinement"
  | map => "a map"
  | string => "a string"
  | float => "f64"
  | variantContent => "newtype variant"

/-- A name between grave accents. -/
def ticked (name : String) : String := "`" ++ name ++ "`"

/-- A list of alternatives: a single one as it is, several after `one of`. -/
def alternatives : List String → String
  | [only] => ticked only
  | names => "one of " ++ ", ".intercalate (names.map ticked)

namespace Fault

/-- The wording of a fault. -/
def message : Fault → String
  | endInValue => "EOF while parsing a value"
  | endInString => "EOF while parsing a string"
  | endInList => "EOF while parsing a list"
  | endInObject => "EOF while parsing an object"
  | expectedValue => "expected value"
  | expectedWord => "expected ident"
  | expectedColon => "expected `:`"
  | expectedCommaOrBracket => "expected `,` or `]`"
  | expectedCommaOrBrace => "expected `,` or `\x7d`"
  | trailingComma => "trailing comma"
  | trailingText => "trailing characters"
  | keyNotString => "key must be a string"
  | invalidNumber => "invalid number"
  | numberOutOfRange => "number out of range"
  | invalidEscape => "invalid escape"
  | controlCharacter => "control character (\\u0000-\\u001F) found while parsing a string"
  | loneSurrogate => "lone leading surrogate in hex escape"
  | unfinishedSurrogate => "unexpected end of hex escape"
  | tooDeep => "recursion limit exceeded"
  | mismatch found wanted => "invalid type: " ++ found.message ++ ", expected " ++ wanted.message
  | unknownField name known =>
      "unknown field " ++ ticked name ++ ", expected " ++ alternatives known
  | unknownVariant name known =>
      "unknown variant " ++ ticked name ++ ", expected " ++ alternatives known
  | duplicateField name => "duplicate field " ++ ticked name
  | missingField name => "missing field " ++ ticked name
  | tooShort length wanted size =>
      "invalid length " ++ toString length ++ ", expected " ++ wanted.message ++ " with " ++
        toString size ++ " elements"

end Fault

/-! ### Places -/

/-- One step on the way into a JSON text. -/
inductive Step where
  | key (name : String)
  | index (position : Nat)
  | unknown
deriving DecidableEq

/-- The steps of a path as text: indexes in brackets, all else set off by points. -/
def pathText : List Step → String
  | [] => "."
  | first :: rest =>
      (match first with
        | .key name => name
        | .index position => "[" ++ toString position ++ "]"
        | .unknown => "?") ++
      String.join (rest.map fun step =>
        match step with
        | .key name => "." ++ name
        | .index position => "[" ++ toString position ++ "]"
        | .unknown => ".?")

/-- A line, counted from one, and the number of bytes on it before a point. -/
structure Position where
  line : Nat
  column : Nat
deriving DecidableEq

/-- The position after a number of bytes of a text, counted on from an earlier position. -/
def Position.after (start : Position) : Nat → List Char → Position
  | bytes, [] => { start with column := start.column + bytes }
  | bytes, character :: rest =>
      if bytes < character.utf8Size then { start with column := start.column + bytes }
      else if character = '\n' then
        Position.after ⟨start.line + 1, 0⟩ (bytes - 1) rest
      else
        Position.after { start with column := start.column + character.utf8Size }
          (bytes - character.utf8Size) rest

/-- A fault at a place: the bytes read before it, and the path that leads there. -/
structure ReadError where
  fault : Fault
  offset : Nat
  path : List Step
deriving DecidableEq

namespace ReadError

/-- The error seen from one step farther out. -/
def within (error : ReadError) (step : Step) : ReadError :=
  { error with path := step :: error.path }

/-- The wording of the fault, with the line and column it has in the text. -/
def message (error : ReadError) (text : String) : String :=
  let position := Position.after ⟨1, 0⟩ error.offset text.toList
  error.fault.message ++ " at line " ++ toString position.line ++ " column " ++
    toString position.column

end ReadError

end JsonShape
