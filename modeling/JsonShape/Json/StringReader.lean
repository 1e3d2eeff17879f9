/-
This file reads strings, from behind the opening quote to behind the closing one.
An escape with four hexadecimal digits names one unit of a UTF-16 text: a leading
surrogate has to be followed by the escape of a trailing one, and the two make one
character.
-/

import JsonShape.Json.Cursor
import JsonShape.Text.Ranges

namespace JsonShape

/-- The character of a short escape. -/
def shortEscape? : Char → Option Char
  | '"' => some '"'
  | '\\' => some '\\'
  | '/' => some '/'
  | 'b' => some '\x08'
  | 'f' => some '\x0c'
  | 'n' => some '\n'
  | 'r' => some '\r'
  | 't' => some '\t'
  | _ => none

/-- The unit of four hexadecimal digits. -/
def unitOf? (first second third fourth : Char) : Option Nat := do
  let first ← Ranges.hexDigit? first
  let second ← Ranges.hexDigit? second
  let third ← Ranges.hexDigit? third
  let fourth ← Ranges.hexDigit? fourth
  return ((first * 16 + second) * 16 + third) * 16 + fourth

/-- Whether a unit is the leading half of a pair. -/
def isLeading (unit : Nat) : Bool := 0xD800 ≤ unit && unit ≤ 0xDBFF

/-- Whether a unit is the trailing half of a pair. -/
def isTrailing (unit : Nat) : Bool := 0xDC00 ≤ unit && unit ≤ 0xDFFF

/-- The character of a pair of units. -/
def pairCharacter (leading trailing : Nat) : Char :=
  Char.ofNat (0x10000 + (leading - 0xD800) * 0x400 + (trailing - 0xDC00))

/-- The number of bytes of a text. -/
def byteLength (text : List Char) : Nat :=
  text.foldl (fun sum character => sum + character.utf8Size) 0

/-- Why four hexadecimal digits cannot be read: fewer than four bytes are left, or they are no
hexadecimal digits. -/
def unitError (rest : List Char) (offset : Nat) : ReadError :=
  if byteLength rest < 4 then ⟨.endInString, offset + byteLength rest, []⟩
  else ⟨.invalidEscape, offset + 4, []⟩

/-- Reads the characters of a string up to its closing quote; what has been read comes first in
`done`, last character first. -/
def readCharacters (done : List Char) : List Char → Nat → Except ReadError (String × Cursor)
  | [], offset => .error ⟨.endInString, offset, []⟩
  | '"' :: rest, offset => .ok (String.ofList done.reverse, ⟨rest, offset + 1⟩)
  | '\\' :: [], offset => .error ⟨.endInString, offset + 1, []⟩
  | '\\' :: 'u' :: rest, offset =>
      match rest with
      | first :: second :: third :: fourth :: rest =>
          match unitOf? first second third fourth with
          | none => .error (unitError (first :: second :: third :: fourth :: rest) (offset + 2))
          | some unit =>
              if isTrailing unit then .error ⟨.loneSurrogate, offset + 6, []⟩
              else if isLeading unit then
                match rest with
                | '\\' :: 'u' :: fifth :: sixth :: seventh :: eighth :: rest =>
                    match unitOf? fifth sixth seventh eighth with
                    | none =>
                        let rest := fifth :: sixth :: seventh :: eighth :: rest
                        .error (unitError rest (offset + 8))
                    | some trailing =>
                        if isTrailing trailing then
                          readCharacters (pairCharacter unit trailing :: done) rest (offset + 12)
                        else .error ⟨.loneSurrogate, offset + 12, []⟩
                | '\\' :: 'u' :: short => .error (unitError short (offset + 8))
                | '\\' :: _ :: _ => .error ⟨.unfinishedSurrogate, offset + 8, []⟩
                | '\\' :: [] => .error ⟨.endInString, offset + 7, []⟩
                | [] => .error ⟨.endInString, offset + 6, []⟩
                | _ => .error ⟨.unfinishedSurrogate, offset + 7, []⟩
              else readCharacters (Char.ofNat unit :: done) rest (offset + 6)
      | short => .error (unitError short (offset + 2))
  | '\\' :: letter :: rest, offset =>
      match shortEscape? letter with
      | some character => readCharacters (character :: done) rest (offset + 2)
      | none => .error ⟨.invalidEscape, offset + 2, []⟩
  | character :: rest, offset =>
      if character.toNat < 0x20 then .error ⟨.controlCharacter, offset + 1, []⟩
      else readCharacters (character :: done) rest (offset + character.utf8Size)

/-- A string, from behind its opening quote on. -/
def readString (cursor : Cursor) : Except ReadError (String × Cursor) :=
  readCharacters [] cursor.rest cursor.offset

end JsonShape
