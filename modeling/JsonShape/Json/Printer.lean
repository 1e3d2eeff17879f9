/-
This file writes JSON values as text: without any blanks (`Json.compact`) or with
every item and member on a line of its own (`Json.indented`). Integers are written
in decimal, floats with the fewest digits that read back, and strings with the short
escapes JSON has for them.
-/

import JsonShape.Json.Basic
import JsonShape.Number.Decimal

namespace JsonShape

/-! ### Numbers -/

/-- A sign for what is below zero, the negative zero included. -/
def signed (negative : Bool) (text : List Char) : List Char :=
  if negative then '-' :: text else text

namespace Binary64

/-- The JSON text of a float. Numbers from 10⁻⁵ up to 10¹⁶ are written without exponent and
always with a fraction; of two shortest decimals that are equally near, the one with the even
last digit is written. -/
def jsonText (number : Binary64) : List Char :=
  let decimal := number.shortest .even
  let body :=
    if decimal.digits = 0 ∨ (-4 ≤ decimal.point ∧ decimal.point ≤ 16) then
      decimal.positional ['.', '0']
    else decimal.scientific
  signed number.negative body

/-- The plain text of a float: never an exponent, and no fraction for whole numbers; of two
shortest decimals that are equally near, the greater one is written. -/
def plainText (number : Binary64) : List Char :=
  signed number.negative ((number.shortest .up).positional [])

end Binary64

/-- The decimal text of an integer. -/
def integerText (value : Int) : List Char := signed (decide (value < 0)) (digitsOf value.natAbs)

/-- The JSON text of a number. -/
def Number.text : Number → List Char
  | integer whole => integerText whole.value
  | float real => real.jsonText

/-! ### Strings -/

/-- A character as it stands inside a JSON string. -/
def escape (character : Char) : List Char :=
  match character with
  | '"' => ['\\', '"']
  | '\\' => ['\\', '\\']
  | '\x08' => ['\\', 'b']
  | '\x0c' => ['\\', 'f']
  | '\n' => ['\\', 'n']
  | '\r' => ['\\', 'r']
  | '\t' => ['\\', 't']
  | _ =>
      if character.toNat < 0x20 then
        ['\\', 'u', '0', '0', Nat.digitChar (character.toNat / 16),
          Nat.digitChar (character.toNat % 16)]
      else [character]

/-- The JSON text of a string. -/
def quote (characters : List Char) : List Char := '"' :: characters.flatMap escape ++ ['"']

/-! ### Values -/

namespace Json

mutual

/-- The text of a value without blanks. -/
def compact : Json → List Char
  | null => "null".toList
  | bool true => "true".toList
  | bool false => "false".toList
  | number value => value.text
  | string value => quote value.toList
  | array [] => ['[', ']']
  | array (item :: items) => '[' :: item.compact ++ compactItems items
  | object [] => ['\x7b', '\x7d']
  | object ((name, value) :: members) =>
      '\x7b' :: quote name.toList ++ ':' :: value.compact ++ compactMembers members

/-- The items after the first one and the closing bracket. -/
def compactItems : List Json → List Char
  | [] => [']']
  | item :: items => ',' :: item.compact ++ compactItems items

/-- The members after the first one and the closing brace. -/
def compactMembers : List (String × Json) → List Char
  | [] => ['\x7d']
  | (name, value) :: members =>
      ',' :: quote name.toList ++ ':' :: value.compact ++ compactMembers members

end

/-- The text of a value without blanks, as a string. -/
def text (value : Json) : String := String.ofList value.compact

/-- A new line at a depth of nesting, two blanks for each level. -/
def newLine (depth : Nat) : List Char := '\n' :: List.replicate (2 * depth) ' '

mutual

/-- The text of a value that begins at a depth of nesting, one line for each item and member. -/
def indented (depth : Nat) : Json → List Char
  | array (item :: items) =>
      '[' :: newLine (depth + 1) ++ item.indented (depth + 1) ++ indentedItems depth items
  | object ((name, value) :: members) =>
      '\x7b' :: newLine (depth + 1) ++ quote name.toList ++ ':' :: ' ' ::
        value.indented (depth + 1) ++ indentedMembers depth members
  | null => "null".toList
  | bool true => "true".toList
  | bool false => "false".toList
  | number value => value.text
  | string value => quote value.toList
  | array [] => ['[', ']']
  | object [] => ['\x7b', '\x7d']

/-- The items after the first one and the closing bracket on its own line. -/
def indentedItems (depth : Nat) : List Json → List Char
  | [] => newLine depth ++ [']']
  | item :: items =>
      ',' :: newLine (depth + 1) ++ item.indented (depth + 1) ++ indentedItems depth items

/-- The members after the first one and the closing brace on its own line. -/
def indentedMembers (depth : Nat) : List (String × Json) → List Char
  | [] => newLine depth ++ ['\x7d']
  | (name, value) :: members =>
      ',' :: newLine (depth + 1) ++ quote name.toList ++ ':' :: ' ' ::
        value.indented (depth + 1) ++ indentedMembers depth members

end

/-- The text of a value over several lines, as a string. -/
def indentedText (value : Json) : String := String.ofList (value.indented 0)

end Json

end JsonShape
