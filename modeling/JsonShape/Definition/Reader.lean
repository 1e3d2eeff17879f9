/-
This file reads definition files. The text is decoded while it is read, so that a
value of the wrong form is reported where it stands. A structure is written as an
object with its fields as members, or as an array with the fields in order; a field
that the text does not know stops the reading behind its name. What follows the
definitions in the text is not looked at.
-/

import JsonShape.Definition.Declaration
import JsonShape.Definition.Error
import JsonShape.Json.Reader

namespace JsonShape

/-! ### Values of the wrong form -/

/-- What kind of thing a scalar is, for a message. -/
def Found.ofScalar : Json → Found
  | .null => .null
  | .bool value => .boolean value
  | .number value => .number value
  | .string value => .string value
  | .array _ => .sequence
  | .object _ => .map

/-- The error that the next value is not what is wanted. A scalar is read first, and a fault in it
is reported instead; an array or object is reported in front of its bracket. -/
def mismatchAt (wanted : Wanted) (cursor : Cursor) : ReadError :=
  match cursor.rest with
  | '[' :: _ => cursor.errorHere (.mismatch .sequence wanted)
  | '\x7b' :: _ => cursor.errorHere (.mismatch .map wanted)
  | _ =>
      match readValueWith none cursor with
      | .ok (value, after) => after.errorHere (.mismatch (Found.ofScalar value) wanted)
      | .error error => error

/-- The error, placed behind the brace if that comes next: a fault that is found in an object
without a place of its own is placed where reading the object stops. -/
def errorLeaving (closing : Char) (fault : Fault) (cursor : Cursor) : ReadError :=
  let cursor := cursor.skipSpaces
  match cursor.rest with
  | character :: _ =>
      if character = closing then (cursor.skip 1).errorHere fault else cursor.errorHere fault
  | [] => cursor.errorHere fault

/-! ### Scalars -/

/-- A string. -/
def readText (cursor : Cursor) : Except ReadError (String × Cursor) :=
  let cursor := cursor.skipSpaces
  match cursor.rest with
  | [] => .error (cursor.errorHere .endInValue)
  | '"' :: _ => readString (cursor.skip 1)
  | _ => .error (mismatchAt .string cursor)

/-- A number, as a float. -/
def readFloat (cursor : Cursor) : Except ReadError (Binary64 × Cursor) :=
  let cursor := cursor.skipSpaces
  match cursor.rest with
  | [] => .error (cursor.errorHere .endInValue)
  | character :: _ =>
      if character = '-' ∨ character.isDigit then do
        let (number, after) ← readNumber cursor
        match number.toBinary64? with
        | some float => return (float, after)
        | none => .error (after.errorHere .numberOutOfRange)
      else .error (mismatchAt .float cursor)

/-- Either `null` or what the reader reads. -/
def readOptional {Content : Type} (read : Reader Content) (cursor : Cursor) :
    Except ReadError (Option Content × Cursor) :=
  let cursor := cursor.skipSpaces
  match cursor.rest with
  | 'n' :: _ => do return (none, ← Cursor.readWord ['u', 'l', 'l'] (cursor.skip 1))
  | _ => do
      let (content, cursor) ← read cursor
      return (some content, cursor)

/-! ### Structures -/

/-- One field of a structure whose fields are gathered in a draft. -/
structure FieldReader (Draft : Type) where
  name : String
  present : Draft → Bool
  read : Draft → Reader Draft

/-- The fields of a structure written as an object, up to the closing brace, which is not
consumed. -/
def readNamedFields {Draft : Type} (fields : List (FieldReader Draft)) :
    Nat → Bool → Draft → Cursor → Except ReadError (Draft × Cursor)
  | 0, _, _, cursor => .error (cursor.errorHere .endInObject)
  | limit + 1, first, draft, cursor =>
      match nextKey? first cursor with
      | .error error => .error (error.within .unknown)
      | .ok none => .ok (draft, cursor.skipSpaces)
      | .ok (some (key, cursor)) =>
          match fields.find? fun field => field.name == key with
          | none =>
              .error ((errorLeaving '\x7d' (.unknownField key (fields.map FieldReader.name))
                cursor).within (.key key))
          | some field =>
              if field.present draft then
                .error (errorLeaving '\x7d' (.duplicateField key) cursor)
              else do
                let cursor ← cursor.readColon
                match field.read draft cursor with
                | .error error => .error (error.within (.key key))
                | .ok (draft, cursor) => readNamedFields fields limit false draft cursor

/-- The fields of a structure written as an array, as many as there are, up to the closing
bracket, which is not consumed. -/
def readPlacedFields {Draft : Type} :
    List (FieldReader Draft) → Nat → Draft → Cursor → Except ReadError (Draft × Cursor)
  | [], _, draft, cursor => .ok (draft, cursor)
  | field :: fields, position, draft, cursor =>
      match nextItem? (position == 0) cursor with
      | .error error => .error error
      | .ok none => .ok (draft, cursor.skipSpaces)
      | .ok (some cursor) =>
          match field.read draft cursor with
          | .error error => .error (error.within (.index position))
          | .ok (draft, cursor) => readPlacedFields fields (position + 1) draft cursor

/-- A structure: its fields as an object or as an array, from an empty draft. `finish` completes
the draft, given whether it was written as an array, or names the fault of it. -/
def readStructure {Draft Result : Type} (wanted : Wanted) (fields : List (FieldReader Draft))
    (empty : Draft) (finish : Bool → Draft → Except Fault Result) (cursor : Cursor) :
    Except ReadError (Result × Cursor) :=
  let cursor := cursor.skipSpaces
  match cursor.rest with
  | [] => .error (cursor.errorHere .endInValue)
  | '\x7b' :: _ => do
      let inside := cursor.skip 1
      let (draft, cursor) ← readNamedFields fields (inside.rest.length + 1) true empty inside
      match finish false draft with
      | .error fault => .error (errorLeaving '\x7d' fault cursor)
      | .ok result => return (result, ← closeObject cursor)
  | '[' :: _ => do
      let (draft, cursor) ← readPlacedFields fields 0 empty (cursor.skip 1)
      match finish true draft with
      | .error fault => .error (errorLeaving ']' fault cursor)
      | .ok result => return (result, ← closeArray cursor)
  | _ => .error (mismatchAt wanted cursor)

/-! ### Refinements -/

/-- The fields of a refinement that have been read; an inner `none` stands for a written `null`. -/
structure RefinementDraft where
  base : Option String
  pattern : Option (Option String)
  minimum : Option (Option Binary64)
  maximum : Option (Option Binary64)

/-- The fields of a refinement, in order. -/
def refinementFields : List (FieldReader RefinementDraft) :=
  [ ⟨"base", fun draft => draft.base.isSome, fun draft cursor => do
      let (base, cursor) ← readText cursor
      return ({ draft with base := some base }, cursor)⟩,
    ⟨"pattern", fun draft => draft.pattern.isSome, fun draft cursor => do
      let (pattern, cursor) ← readOptional readText cursor
      return ({ draft with pattern := some pattern }, cursor)⟩,
    ⟨"minimum", fun draft => draft.minimum.isSome, fun draft cursor => do
      let (minimum, cursor) ← readOptional readFloat cursor
      return ({ draft with minimum := some minimum }, cursor)⟩,
    ⟨"maximum", fun draft => draft.maximum.isSome, fun draft cursor => do
      let (maximum, cursor) ← readOptional readFloat cursor
      return ({ draft with maximum := some maximum }, cursor)⟩ ]

/-- A refinement needs its base; the other fields may be absent. -/
def finishRefinement (placed : Bool) (draft : RefinementDraft) : Except Fault Refinement :=
  match draft.base with
  | some base => .ok ⟨base, draft.pattern.join, draft.minimum.join, draft.maximum.join⟩
  | none =>
      if placed then .error (.tooShort 0 .refinement refinementFields.length)
      else .error (.missingField "base")

/-- A refinement. -/
def readRefinement (cursor : Cursor) : Except ReadError (Refinement × Cursor) :=
  readStructure .refinement refinementFields ⟨none, none, none, none⟩ finishRefinement cursor

/-! ### Declarations -/

/-- The words that introduce a declaration. -/
def declarationWords : List String := ["data", "union", "refine"]

/-- How deep the raw fields of a record or union may still be nested, three levels in. -/
def specLevels : Nat := nestingLimit - 3

/-- What is declared under an introducing word. -/
def readDeclared (word : String) (cursor : Cursor) : Except ReadError (Declaration × Cursor) :=
  if word = "data" then do
    let (spec, cursor) ← readValue specLevels cursor
    return (.data spec, cursor)
  else if word = "union" then do
    let (spec, cursor) ← readValue specLevels cursor
    return (.union spec, cursor)
  else do
    let (refinement, cursor) ← readRefinement cursor
    return (.refine refinement, cursor)

/-- The introducing word, from its opening quote on. -/
def readDeclarationWord (cursor : Cursor) : Except ReadError (String × Cursor) := do
  let (word, cursor) ← readString (cursor.skip 1)
  if declarationWords.contains word then return (word, cursor)
  else .error (cursor.errorHere (.unknownVariant word declarationWords))

/-- Over the brace that closes a declaration. A wrong character is reported in front of it. -/
def closeDeclaration (cursor : Cursor) : Except ReadError Cursor :=
  let cursor := cursor.skipSpaces
  match cursor.rest with
  | [] => .error (cursor.errorHere .endInObject)
  | '\x7d' :: _ => .ok (cursor.skip 1)
  | _ => .error (cursor.errorHere .expectedValue)

/-- A declaration: an object with the introducing word as its only key. A word alone is not
enough; a closing brace that follows it belongs to the enclosing table. -/
def readDeclaration (cursor : Cursor) : Except ReadError (Declaration × Cursor) :=
  let cursor := cursor.skipSpaces
  match cursor.rest with
  | [] => .error (cursor.errorHere .endInValue)
  | '"' :: _ => do
      let (word, cursor) ← readDeclarationWord cursor
      .error ((errorLeaving '\x7d' (.mismatch .bareVariant .variantContent) cursor).within
        (.key word))
  | '\x7b' :: _ =>
      let cursor := (cursor.skip 1).skipSpaces
      match cursor.rest with
      | [] => .error (cursor.errorHere .endInValue)
      | '\x7d' :: _ => .error (cursor.errorAtNext .expectedValue)
      | '"' :: _ => do
          let (word, cursor) ← readDeclarationWord cursor
          let cursor ← cursor.readColon
          match readDeclared word cursor with
          | .error error => .error (error.within (.key word))
          | .ok (declaration, cursor) => return (declaration, ← closeDeclaration cursor)
      | _ => .error (cursor.errorAtNext .keyNotString)
  | _ => .error (cursor.errorAtNext .expectedValue)

/-- The table of declarations. -/
def readDeclarations (cursor : Cursor) :
    Except ReadError (Table Declaration × Cursor) :=
  let cursor := cursor.skipSpaces
  match cursor.rest with
  | [] => .error (cursor.errorHere .endInValue)
  | '\x7b' :: _ => readObject readDeclaration (cursor.skip 1)
  | _ => .error (mismatchAt .map cursor)

/-! ### Files -/

/-- The only field of a definition file. -/
def fileFields : List (FieldReader (Option (Table Declaration))) :=
  [⟨"types", Option.isSome, fun _ cursor => do
    let (types, cursor) ← readDeclarations cursor
    return (some types, cursor)⟩]

/-- A definition file; without declarations it declares nothing. -/
def readFile (cursor : Cursor) : Except ReadError (DefinitionFile × Cursor) :=
  readStructure .definitionFile fileFields none (fun _ draft => .ok ⟨draft.getD []⟩) cursor

/-- The name under which faults of a whole definition text are reported. -/
def wholeText : String := "<definitions>"

/-- The definition file at the beginning of a text. -/
def DefinitionFile.read (text : String) : Except DefinitionError DefinitionFile :=
  match readFile (Cursor.ofString text) with
  | .ok (file, _) => .ok file
  | .error error =>
      let position := Position.after ⟨1, 0⟩ error.offset text.toList
      .error ⟨wholeText, .unreadable error.path error.fault position⟩

end JsonShape
