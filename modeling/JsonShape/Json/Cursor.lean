/-
This file holds the place up to which a text has been read, and the steps that take
it onwards: over blanks, over one character, over a fixed word. An error is placed
either here, behind what has been read, or at the next byte, which has only been
looked at.
-/

import JsonShape.Json.Fault

namespace JsonShape

/-- What is left of a text, and how many bytes have been read of it. -/
structure Cursor where
  rest : List Char
  offset : Nat

/-- What reads something from a place on: it gives what was read and where reading goes on, or says
what is wrong. -/
abbrev Reader (Content : Type) := Cursor → Except ReadError (Content × Cursor)

namespace Cursor

/-- The beginning of a text. -/
def ofString (text : String) : Cursor := ⟨text.toList, 0⟩

/-- An error behind what has been read. -/
def errorHere (cursor : Cursor) (fault : Fault) : ReadError := ⟨fault, cursor.offset, []⟩

/-- An error at the next byte, or at the end of the text. -/
def errorAtNext (cursor : Cursor) (fault : Fault) : ReadError :=
  ⟨fault, if cursor.rest.isEmpty then cursor.offset else cursor.offset + 1, []⟩

/-- Over the first characters, which are single bytes. -/
def skip (cursor : Cursor) (count : Nat) : Cursor :=
  ⟨cursor.rest.drop count, cursor.offset + count⟩

/-- The blanks that JSON allows between its tokens. -/
def isSpace (character : Char) : Bool :=
  character == ' ' || character == '\n' || character == '\t' || character == '\r'

/-- Over the blanks at the front of a text. -/
def skipSpacesOf : List Char → Nat → Cursor
  | [], offset => ⟨[], offset⟩
  | character :: rest, offset =>
      if isSpace character then skipSpacesOf rest (offset + 1) else ⟨character :: rest, offset⟩

/-- Over the blanks. -/
def skipSpaces (cursor : Cursor) : Cursor := skipSpacesOf cursor.rest cursor.offset

/-- Over the characters of a word. A wrong character is consumed before it is reported. -/
def readWord : List Char → Cursor → Except ReadError Cursor
  | [], cursor => .ok cursor
  | expected :: word, cursor =>
      match cursor.rest with
      | [] => .error (cursor.errorHere .endInValue)
      | character :: rest =>
          if character = expected then readWord word ⟨rest, cursor.offset + 1⟩
          else .error ((cursor.skip 1).errorHere .expectedWord)

/-- Over the colon between a key and its value. -/
def readColon (cursor : Cursor) : Except ReadError Cursor :=
  let cursor := cursor.skipSpaces
  match cursor.rest with
  | ':' :: _ => .ok (cursor.skip 1)
  | [] => .error (cursor.errorHere .endInObject)
  | _ => .error (cursor.errorAtNext .expectedColon)

end Cursor

end JsonShape
