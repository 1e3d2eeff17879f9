/-
This file says what patterns match, once their flags are resolved. An expression
leads from places in a text to places in the text: a set of characters leads over
one character, an assertion stays where it holds, and everything else is put
together from these. All places are followed at once, so no choice has to be undone:
`ends` takes the places where an expression may begin to the places where it may
end, and a text is matched if an expression that may begin anywhere can end.
-/

import JsonShape.Pattern.Property
import JsonShape.Text.Blank

namespace JsonShape.Pattern

/-! ### Expressions -/

/-- What a place in a text has to satisfy. -/
inductive Look where
  | textStart
  | textEnd
  | lineStart
  | lineEnd
  | returnLineStart
  | returnLineEnd
  | boundary (unicode : Bool)
  | noBoundary (unicode : Bool)
  | wordStart (unicode : Bool)
  | wordEnd (unicode : Bool)
  | noWordBefore (unicode : Bool)
  | noWordAfter (unicode : Bool)
deriving DecidableEq

/-- A pattern without flags. -/
inductive Expression where
  | empty
  | set (characters : CharacterSet)
  | look (kind : Look)
  | sequence (parts : List Expression)
  | choice (branches : List Expression)
  | repeated (least : Nat) (most : Option Nat) (content : Expression)

/-! ### Places -/

/-- Whether the character belongs to words in ASCII. -/
def isAsciiWord (character : Char) : Bool := character.isAlphanum || character == '_'

/-- Whether the character belongs to words. -/
def isWord (unicode : Bool) (character : Char) : Bool :=
  if character.toNat < 0x80 then isAsciiWord character
  else unicode && wordRanges.holds character

namespace Look

/-- Whether the condition holds between the two characters next to a place. -/
def holds (look : Look) (before after : Option Char) : Bool :=
  let word (unicode : Bool) (character : Option Char) : Bool := character.any (isWord unicode)
  match look with
  | textStart => before.isNone
  | textEnd => after.isNone
  | lineStart => before.isNone || before == some '\n'
  | lineEnd => after.isNone || after == some '\n'
  | returnLineStart =>
      before.isNone || before == some '\n' || (before == some '\r' && after != some '\n')
  | returnLineEnd =>
      after.isNone || after == some '\r' || (after == some '\n' && before != some '\r')
  | boundary unicode => word unicode before != word unicode after
  | noBoundary unicode => word unicode before == word unicode after
  | wordStart unicode => !word unicode before && word unicode after
  | wordEnd unicode => word unicode before && !word unicode after
  | noWordBefore unicode => !word unicode before
  | noWordAfter unicode => !word unicode after

end Look

/-- Places in a text, in rising order and without repetition. -/
abbrev Places := List Nat

/-- The places of both. -/
def Places.merge (first second : Places) : Places :=
  (first ++ second.filter fun place => !first.contains place).mergeSort

/-- The places that are reached in a number of rounds. -/
def rounds (step : Places → Places) : Nat → Places → Places
  | 0, places => places
  | count + 1, places => if places.isEmpty then places else rounds step count (step places)

/-- The places that are reached in at most a number of rounds. -/
def upToRounds (step : Places → Places) : Nat → Places → Places
  | 0, places => places
  | count + 1, places =>
      let reached := places.merge (step places)
      if reached = places then places else upToRounds step count reached

/-! ### Matching -/

namespace Expression

mutual

/-- The places where the expression may end if it begins at one of the places given. More rounds
than there are places reach nothing new. -/
def ends (text : Array Char) : Expression → Places → Places
  | empty, places => places
  | set characters, places =>
      (places.filter fun place => text[place]?.any characters.holds).map (· + 1)
  | look kind, places =>
      places.filter fun place =>
        kind.holds (if place = 0 then none else text[place - 1]?) text[place]?
  | sequence parts, places => endsOfSequence text parts places
  | choice branches, places => endsOfChoice text branches places
  | repeated least most content, places =>
      let step := fun places => ends text content places
      let enough := text.size + 1
      let begun := rounds step (min least enough) places
      let more := match most with
        | some most => min (most - least) enough
        | none => enough
      upToRounds step more begun

/-- The places where the last of the parts may end. -/
def endsOfSequence (text : Array Char) : List Expression → Places → Places
  | [], places => places
  | part :: parts, places => endsOfSequence text parts (ends text part places)

/-- The places where one of the branches may end. -/
def endsOfChoice (text : Array Char) : List Expression → Places → Places
  | [], _ => []
  | branch :: branches, places =>
      (ends text branch places).merge (endsOfChoice text branches places)

end

/-- Whether the expression matches a part of the text. -/
def matchesIn (expression : Expression) (text : String) : Bool :=
  let characters := text.toList.toArray
  !(expression.ends characters (List.range (characters.size + 1))).isEmpty

/-! ### Size -/

/-- The room that one state of a compiled pattern takes. -/
def stateSize : Nat := 32

/-- The room that the two ways on from a state take. -/
def alternativesSize : Nat := 8

mutual

/-- The room that an expression takes when its repetitions are written out. -/
def size : Expression → Nat
  | empty => stateSize
  | set characters => stateSize * characters.size
  | look _ => stateSize
  | sequence parts => sizeOfAll parts
  | choice branches => 2 * stateSize + sizeOfAll branches
  | repeated least most content =>
      let (copies, choices) := match most with
        | some most => (most, most - least)
        | none => (max least 1, 1)
      stateSize + copies * content.size + choices * (stateSize + alternativesSize)

/-- The room that several expressions take. -/
def sizeOfAll : List Expression → Nat
  | [] => 0
  | part :: parts => part.size + sizeOfAll parts

end

end Expression

end JsonShape.Pattern
