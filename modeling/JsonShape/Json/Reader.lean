/-
This file reads JSON values. The reader of arrays and objects is given the reader of
what they hold, so that nesting is a recursion on the number of levels that may
still be opened (`readValue`), and the loops over items and members stand on their
own. A text is a value with nothing but blanks around it (`Json.read`).
-/

import JsonShape.Json.NumberReader
import JsonShape.Json.StringReader

namespace JsonShape

/-! ### Between the items of an array and the members of an object -/

/-- Finds the next item of an array, or its end, which is not consumed. -/
def nextItem? (first : Bool) (cursor : Cursor) : Except ReadError (Option Cursor) :=
  let cursor := cursor.skipSpaces
  match cursor.rest with
  | [] => .error (cursor.errorHere .endInList)
  | ']' :: _ => .ok none
  | character :: _ =>
      if first then .ok (some cursor)
      else if character = ',' then
        let cursor := (cursor.skip 1).skipSpaces
        match cursor.rest with
        | [] => .error (cursor.errorHere .endInValue)
        | ']' :: _ => .error (cursor.errorAtNext .trailingComma)
        | _ => .ok (some cursor)
      else .error (cursor.errorAtNext .expectedCommaOrBracket)

/-- Reads the next key of an object, or finds its end, which is not consumed. -/
def nextKey? (first : Bool) (cursor : Cursor) : Except ReadError (Option (String × Cursor)) :=
  let cursor := cursor.skipSpaces
  match cursor.rest with
  | [] => .error (cursor.errorHere .endInObject)
  | '\x7d' :: _ => .ok none
  | character :: _ =>
      let opening : Except ReadError Cursor :=
        if first then .ok cursor
        else if character = ',' then .ok (cursor.skip 1).skipSpaces
        else .error (cursor.errorAtNext .expectedCommaOrBrace)
      match opening with
      | .error error => .error error
      | .ok cursor =>
          match cursor.rest with
          | [] => .error (cursor.errorHere .endInValue)
          | '"' :: _ =>
              match readString (cursor.skip 1) with
              | .ok key => .ok (some key)
              | .error error => .error error
          | '\x7d' :: _ => .error (cursor.errorAtNext .trailingComma)
          | _ => .error (cursor.errorAtNext .keyNotString)

/-- Over the end of an array. -/
def closeArray (cursor : Cursor) : Except ReadError Cursor :=
  let cursor := cursor.skipSpaces
  match cursor.rest with
  | [] => .error (cursor.errorHere .endInList)
  | ']' :: _ => .ok (cursor.skip 1)
  | ',' :: _ =>
      let cursor := (cursor.skip 1).skipSpaces
      match cursor.rest with
      | ']' :: _ => .error (cursor.errorAtNext .trailingComma)
      | _ => .error (cursor.errorAtNext .trailingText)
  | _ => .error (cursor.errorAtNext .trailingText)

/-- Over the end of an object. -/
def closeObject (cursor : Cursor) : Except ReadError Cursor :=
  let cursor := cursor.skipSpaces
  match cursor.rest with
  | [] => .error (cursor.errorHere .endInObject)
  | '\x7d' :: _ => .ok (cursor.skip 1)
  | ',' :: _ => .error (cursor.errorAtNext .trailingComma)
  | _ => .error (cursor.errorAtNext .trailingText)

/-! ### Items and members -/

/-- The items of an array from a position on. Each takes at least one character, so the length of
the text is a limit on their number. -/
def readItems {Item : Type} (readItem : Reader Item) :
    Nat → Nat → Cursor → Except ReadError (List Item × Cursor)
  | 0, _, cursor => .error (cursor.errorHere .endInList)
  | limit + 1, position, cursor => do
      match ← nextItem? (position == 0) cursor with
      | none => return ([], ← closeArray cursor)
      | some cursor =>
          match readItem cursor with
          | .error error => .error (error.within (.index position))
          | .ok (item, cursor) =>
              let (items, cursor) ← readItems readItem limit (position + 1) cursor
              return (item :: items, cursor)

/-- The members of an object, written into the table of those before them. Each takes at least one
character, so the length of the text is a limit on their number. -/
def readMembers {Content : Type} (readContent : Reader Content) :
    Nat → Bool → Table Content → Cursor → Except ReadError (Table Content × Cursor)
  | 0, _, _, cursor => .error (cursor.errorHere .endInObject)
  | limit + 1, first, table, cursor =>
      match nextKey? first cursor with
      | .error error => .error (error.within .unknown)
      | .ok none => do return (table, ← closeObject cursor)
      | .ok (some (key, cursor)) => do
          let cursor ← cursor.readColon
          match readContent cursor with
          | .error error => .error (error.within (.key key))
          | .ok (content, cursor) =>
              readMembers readContent limit false (Table.insert table key content) cursor

/-- The items of an array behind its bracket. -/
def readArray {Item : Type} (readItem : Reader Item) (cursor : Cursor) :
    Except ReadError (List Item × Cursor) :=
  readItems readItem (cursor.rest.length + 1) 0 cursor

/-- The members of an object behind its brace. A name that occurs again replaces the content. -/
def readObject {Content : Type} (readContent : Reader Content) (cursor : Cursor) :
    Except ReadError (Table Content × Cursor) :=
  readMembers readContent (cursor.rest.length + 1) true [] cursor

/-! ### Values -/

/-- A value whose items and members are read by `nested`; without it no array or object may
begin. -/
def readValueWith (nested : Option (Reader Json)) (cursor : Cursor) :
    Except ReadError (Json × Cursor) :=
  let cursor := cursor.skipSpaces
  match cursor.rest with
  | [] => .error (cursor.errorHere .endInValue)
  | 'n' :: _ => do return (.null, ← Cursor.readWord ['u', 'l', 'l'] (cursor.skip 1))
  | 't' :: _ => do return (.bool true, ← Cursor.readWord ['r', 'u', 'e'] (cursor.skip 1))
  | 'f' :: _ => do return (.bool false, ← Cursor.readWord ['a', 'l', 's', 'e'] (cursor.skip 1))
  | '"' :: _ => do
      let (text, cursor) ← readString (cursor.skip 1)
      return (.string text, cursor)
  | '[' :: _ =>
      match nested with
      | none => .error (cursor.errorAtNext .tooDeep)
      | some readNested => do
          let (items, cursor) ← readArray readNested (cursor.skip 1)
          return (.array items, cursor)
  | '\x7b' :: _ =>
      match nested with
      | none => .error (cursor.errorAtNext .tooDeep)
      | some readNested => do
          let (members, cursor) ← readObject readNested (cursor.skip 1)
          return (.object members, cursor)
  | character :: _ =>
      if character = '-' ∨ character.isDigit then do
        let (number, cursor) ← readNumber cursor
        return (.number number, cursor)
      else .error (cursor.errorAtNext .expectedValue)

/-- A value in which that many arrays and objects may stand one inside the other. -/
def readValue : Nat → Cursor → Except ReadError (Json × Cursor)
  | 0 => readValueWith none
  | levels + 1 => readValueWith (some (readValue levels))

/-- How many arrays and objects may stand one inside the other. -/
def nestingLimit : Nat := 127

/-- The value of a text that holds one value and blanks. -/
def Json.read (text : String) : Except ReadError Json := do
  let (value, cursor) ← readValue nestingLimit (Cursor.ofString text)
  let cursor := cursor.skipSpaces
  if cursor.rest.isEmpty then return value
  else .error (cursor.errorAtNext .trailingText)

end JsonShape
