/-
This file cuts sources into documents. A source is one document, or one document for
each of its lines that is not blank; such a document is named after its source and
the number of its line, and blank lines are counted. A pointer then selects the part
of a document that is looked at.
-/

import JsonShape.Json.Pointer
import JsonShape.Json.Reader
import JsonShape.Text.Blank

namespace JsonShape

/-- A JSON value and where it comes from. -/
structure Document where
  origin : String
  value : Json

/-- Why a source does not give documents. -/
inductive DocumentError where
  | unreadable (origin : String) (error : ReadError) (text : String)
  | unreadableLine (origin : String) (error : ReadError) (text : String)
  | nothingSelected (pointer origin : String)

/-- The wording of the error. -/
def DocumentError.message : DocumentError → String
  | unreadable origin error text =>
      "failed to parse JSON source file (" ++ origin ++ "): " ++ error.message text
  | unreadableLine origin error text =>
      "failed to parse NDJSON line (" ++ origin ++ "): " ++ error.message text
  | nothingSelected pointer origin =>
      "JSON pointer " ++ pointer ++ " matched nothing in " ++ origin

/-! ### Lines -/

/-- A line that ended in a line feed, without a carriage return before it. -/
def withoutReturn (line : List Char) : List Char :=
  if line.getLast? = some '\r' then line.dropLast else line

/-- The lines among the pieces between line feeds: the last piece is a line only if it is not
empty, and it keeps a carriage return. -/
def linesOfPieces : List (List Char) → List (List Char)
  | [] => []
  | [last] => if last.isEmpty then [] else [last]
  | line :: rest => withoutReturn line :: linesOfPieces rest

/-- The lines of a text. -/
def linesOf (text : String) : List String :=
  (linesOfPieces (pieces '\n' text.toList)).map String.ofList

/-- The document of a line. -/
def Document.ofLine (origin : String) (number : Nat) (line : String) :
    Except DocumentError Document :=
  let origin := origin ++ ":" ++ toString number
  match Json.read line with
  | .ok value => .ok ⟨origin, value⟩
  | .error error => .error (.unreadableLine origin error line)

/-- The documents of the lines from a number on. -/
def documentsOfLines (origin : String) :
    Nat → List String → Except DocumentError (List Document)
  | _, [] => .ok []
  | number, line :: lines =>
      if blank line then documentsOfLines origin (number + 1) lines
      else do
        let document ← Document.ofLine origin number line
        let documents ← documentsOfLines origin (number + 1) lines
        return document :: documents

/-! ### Sources -/

/-- The documents of a source. -/
def documentsOf (origin text : String) (byLine : Bool) : Except DocumentError (List Document) :=
  if byLine then documentsOfLines origin 1 (linesOf text)
  else match Json.read text with
    | .ok value => .ok [⟨origin, value⟩]
    | .error error => .error (.unreadable origin error text)

/-- The part of a document that the pointer selects; without one the whole. -/
def Document.select (pointer : Option String) (document : Document) :
    Except DocumentError Document :=
  match pointer with
  | none => .ok document
  | some pointer =>
      match document.value.pointer? pointer with
      | some value => .ok { document with value }
      | none => .error (.nothingSelected pointer document.origin)

end JsonShape
