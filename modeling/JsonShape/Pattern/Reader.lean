/-
This file reads patterns. Where blanks are ignored, blanks and comments may stand
between any two tokens. The reader keeps what is left of the text, whether blanks
are ignored, and the names of groups that are taken; every step of a loop takes at
least one character, so the length of the text limits the number of steps.
-/

import JsonShape.Pattern.Syntax
import JsonShape.Text.Blank
import JsonShape.Text.Ranges
import JsonShape.Pattern.Table.Category
import JsonShape.Pattern.Table.Property

namespace JsonShape.Pattern

/-- Where reading a pattern stands. -/
structure Scan where
  rest : List Char
  extended : Bool
  names : List String

/-- A step of reading, which may fail. -/
abbrev Reading := StateT Scan Option

/-! ### Blanks and comments -/

mutual

/-- Over blanks and comments. -/
def dropBlanks : List Char → List Char
  | [] => []
  | character :: rest =>
      if isBlank character then dropBlanks rest
      else if character = '#' then dropComment rest
      else character :: rest

/-- Over a comment and what is ignored behind it. -/
def dropComment : List Char → List Char
  | [] => []
  | character :: rest => if character = '\n' then dropBlanks rest else dropComment rest

end

/-- Over what is ignored where the scan stands. -/
def skipIgnored : Reading Unit :=
  modify fun scan => if scan.extended then { scan with rest := dropBlanks scan.rest } else scan

/-- What comes next behind the first character, if what is ignored is not looked at. -/
def afterFirst (scan : Scan) : List Char :=
  let rest := scan.rest.drop 1
  if scan.extended then dropBlanks rest else rest

/-- The next character, which is not consumed. -/
def peek? : Reading (Option Char) := do return (← get).rest.head?

/-- The next character, which has to be there. -/
def peek : Reading Char := do StateT.lift (← get).rest.head?

/-- Over one character. -/
def advance : Reading Unit := modify fun scan => { scan with rest := scan.rest.drop 1 }

/-- Over one character and what is ignored behind it. -/
def advanceIgnoring : Reading Unit := do
  advance
  skipIgnored

/-- Over a fixed text, if it comes next. -/
def takeText (text : List Char) : Reading Bool := do
  let scan ← get
  if text.isPrefixOf scan.rest then
    set { scan with rest := scan.rest.drop text.length }
    return true
  else return false

/-- Goes on only if the condition holds. -/
def require (condition : Bool) : Reading Unit := if condition then pure () else failure

/-- Over the characters that satisfy the test, with what is ignored between them. -/
def takeRun (test : Char → Bool) : Nat → Reading (List Char)
  | 0 => return []
  | limit + 1 => do
      match ← peek? with
      | some character =>
          if test character then
            advanceIgnoring
            return character :: (← takeRun test limit)
          else return []
      | none => return []

/-- A run of any length. -/
def takeWhile (test : Char → Bool) : Reading (List Char) := do
  takeRun test (← get).rest.length

/-! ### Escapes -/

/-- The characters with a meaning of their own. -/
def isMeta (character : Char) : Bool := "\\.+*?()|[]\x7b\x7d^$#&-~".toList.contains character

/-- The characters that may be escaped to stand for themselves. -/
def isEscapable (character : Char) : Bool :=
  isMeta character ||
    (character.toNat < 0x80 && !character.isAlphanum && character != '<' && character != '>')

/-- The character of a number, if it is one. -/
def characterOf? (code : Nat) : Option Char :=
  if code.isValidChar then some (Char.ofNat code) else none

/-- The number that hexadecimal digits spell. -/
def hexValue? (digits : List Char) : Option Nat :=
  digits.foldlM (fun value digit => do return value * 16 + (← Ranges.hexDigit? digit)) 0

/-- Whether the character is a hexadecimal digit. -/
def isHex (character : Char) : Bool := (Ranges.hexDigit? character).isSome

/-- A fixed number of hexadecimal digits. -/
def takeHexDigits : Nat → Reading (List Char)
  | 0 => return []
  | count + 1 => do
      let digit ← peek
      require (isHex digit)
      advanceIgnoring
      return digit :: (← takeHexDigits count)

/-- A character given by its number: in braces, or with a fixed number of digits. -/
def readHex (digits : Nat) : Reading Letter := do
  advanceIgnoring
  if (← peek) = '\x7b' then
    advanceIgnoring
    let digits ← takeWhile isHex
    require ((← peek) = '\x7d' && !digits.isEmpty)
    advanceIgnoring
    return ⟨← StateT.lift ((hexValue? digits).bind characterOf?), false⟩
  else
    let written ← takeHexDigits digits
    return ⟨← StateT.lift ((hexValue? written).bind characterOf?), digits == 2⟩

/-- The letters before and behind the first place where the separator stands. -/
def splitAt? (separator : List Char) : List Char → Option (List Char × List Char)
  | [] => none
  | character :: rest =>
      if separator.isPrefixOf (character :: rest) then
        some ([], (character :: rest).drop separator.length)
      else (splitAt? separator rest).map fun parts => (character :: parts.1, parts.2)

/-- The property that a name in braces stands for. The signs between a property and its value all
mean the same. -/
def propertyOfName (name : List Char) : PropertyName :=
  let separated := splitAt? ['!', '='] name <|> splitAt? [':'] name <|> splitAt? ['='] name
  match separated with
  | some (property, value) => .pair (String.ofList property) (String.ofList value)
  | none => .single (String.ofList name)

/-- A property behind its letter. -/
def readProperty : Reading PropertyName := do
  advanceIgnoring
  let first ← peek
  if first = '\x7b' then
    advanceIgnoring
    let name ← takeWhile (· != '\x7d')
    require ((← peek) = '\x7d')
    advance
    return propertyOfName name
  else
    require (first ≠ '\\')
    advanceIgnoring
    return .single (String.singleton first)

/-- The assertion that a word in braces turns a word boundary into. -/
def boundaryOfWord? : String → Option Assertion
  | "start" => some .wordStart
  | "end" => some .wordEnd
  | "start-half" => some .wordStartHalf
  | "end-half" => some .wordEndHalf
  | _ => none

/-- Whether the character can be part of a word that names a kind of boundary. -/
def isBoundaryLetter (character : Char) : Bool := character.isAlpha || character == '-'

/-- A word boundary behind its letter. A brace that no letter follows begins a repetition instead
and is left alone. -/
def readBoundary : Reading Assertion := do
  let scan ← get
  match scan.rest with
  | '\x7b' :: _ => do
      advanceIgnoring
      if isBoundaryLetter (← peek) then
        let word ← takeWhile isBoundaryLetter
        require ((← peek) = '\x7d')
        advance
        StateT.lift (boundaryOfWord? (String.ofList word))
      else
        set scan
        return .wordBoundary
  | _ => return .wordBoundary

/-- What an escape stands for. -/
inductive Escaped where
  | letter (written : Letter)
  | short (negated : Bool) (kind : ShortClass)
  | property (negated : Bool) (name : PropertyName)
  | assertion (kind : Assertion)

/-- A control character that has a letter. -/
def controlOf? : Char → Option Char
  | 'a' => some '\x07'
  | 'f' => some '\x0c'
  | 't' => some '\t'
  | 'n' => some '\n'
  | 'r' => some '\r'
  | 'v' => some '\x0b'
  | _ => none

/-- The class of a letter, and whether it is negated. -/
def shortOf? : Char → Option (Bool × ShortClass)
  | 'd' => some (false, .digit)
  | 'D' => some (true, .digit)
  | 's' => some (false, .space)
  | 'S' => some (true, .space)
  | 'w' => some (false, .word)
  | 'W' => some (true, .word)
  | _ => none

/-- An assertion that has a letter. -/
def assertionOf? : Char → Option Assertion
  | 'A' => some .textStart
  | 'z' => some .textEnd
  | 'B' => some .notWordBoundary
  | '<' => some .wordStart
  | '>' => some .wordEnd
  | _ => none

/-- An escape, from its backslash on. -/
def readEscape : Reading Escaped := do
  advance
  let letter ← peek
  if letter = 'x' then return .letter (← readHex 2)
  else if letter = 'u' then return .letter (← readHex 4)
  else if letter = 'U' then return .letter (← readHex 8)
  else if letter = 'p' then return .property false (← readProperty)
  else if letter = 'P' then return .property true (← readProperty)
  else
    advance
    match shortOf? letter, assertionOf? letter, controlOf? letter with
    | some (negated, kind), _, _ => return .short negated kind
    | none, some assertion, _ => return .assertion assertion
    | none, none, some control => return .letter ⟨control, false⟩
    | none, none, none =>
        if letter = 'b' then return .assertion (← readBoundary)
        else
          require (isEscapable letter)
          return .letter ⟨letter, false⟩

/-! ### Classes in brackets -/

/-- One item, or the union of several. -/
def unionOf : List ClassSet → ClassSet
  | [item] => item
  | items => .union items

/-- A class that is written by name between colons, from its bracket on. -/
def namedClass? (text : List Char) : Option (ClassSet × List Char) :=
  match text with
  | '[' :: ':' :: rest =>
      let (negated, rest) := match rest with
        | '^' :: rest => (true, rest)
        | rest => (false, rest)
      let name := rest.takeWhile (· != ':')
      match rest.drop name.length, NamedClass.ofName? (String.ofList name) with
      | ':' :: ']' :: rest, some kind => some (.named negated kind, rest)
      | _, _ => none
  | _ => none

/-- One character or escape of a class. -/
def readClassItem : Reading Escaped := do
  let character ← peek
  if character = '\\' then readEscape
  else
    advance
    return .letter ⟨character, false⟩

/-- An escape as an item of a class; assertions have no place there. -/
def itemOf? : Escaped → Option ClassSet
  | .letter written => some (.letter written)
  | .short negated kind => some (.short negated kind)
  | .property negated name => some (.property negated name)
  | .assertion _ => none

/-- An escape as an end of a range. -/
def endOf? : Escaped → Option Letter
  | .letter written => some written
  | _ => none

/-- An item of a class, or a range of characters. A dash before the closing bracket or before
another dash is no range. -/
def readClassRange : Reading ClassSet := do
  let first ← readClassItem
  skipIgnored
  let scan ← get
  let dash ← peek
  if dash ≠ '-' ∨ (afterFirst scan).head? = some ']' ∨ (afterFirst scan).head? = some '-' then
    StateT.lift (itemOf? first)
  else
    advanceIgnoring
    let _ ← peek
    let second ← readClassItem
    let low ← StateT.lift (endOf? first)
    let high ← StateT.lift (endOf? second)
    require (low.character.toNat ≤ high.character.toNat)
    return .range low high

/-- The dashes that stand for themselves at the beginning of a class. -/
def readLeadingDashes : Nat → Reading (List ClassSet)
  | 0 => return []
  | limit + 1 => do
      if (← peek) = '-' then
        advanceIgnoring
        return .letter ⟨'-', false⟩ :: (← readLeadingDashes limit)
      else return []

/-- The beginning of a class, from its bracket on: whether it is negated, and the dashes or the
closing bracket that stand for themselves there. -/
def readClassOpening : Reading (Bool × List ClassSet) := do
  advanceIgnoring
  let negated := (← peek) == '^'
  if negated then advanceIgnoring
  let dashes ← readLeadingDashes ((← get).rest.length + 1)
  if dashes.isEmpty ∧ (← peek) = ']' then
    advanceIgnoring
    let _ ← peek
    return (negated, [.letter ⟨']', false⟩])
  else return (negated, dashes)

/-- The operation that a doubled sign stands for. -/
def operationOf? : List Char → Option ClassOperation
  | '&' :: '&' :: _ => some .intersection
  | '-' :: '-' :: _ => some .difference
  | '~' :: '~' :: _ => some .symmetricDifference
  | _ => none

/-- Completes the operation that is waiting for its right side. -/
def combine (waiting : Option (ClassOperation × ClassSet)) (right : ClassSet) : ClassSet :=
  match waiting with
  | none => right
  | some (kind, left) => .operation kind left right

/-- The content of a class up to its closing bracket: the items so far, last first, and the
operation that waits for them. Operations combine from left to right. -/
def readClassContent :
    Nat → Option (ClassOperation × ClassSet) → List ClassSet → Reading ClassSet
  | 0, _, _ => failure
  | limit + 1, waiting, items => do
      skipIgnored
      let scan ← get
      match ← peek with
      | '[' =>
          match namedClass? scan.rest with
          | some (item, rest) =>
              set { scan with rest }
              readClassContent limit waiting (item :: items)
          | none =>
              let (negated, opening) ← readClassOpening
              let content ← readClassContent limit none opening.reverse
              readClassContent limit waiting (.bracketed negated content :: items)
      | ']' =>
          advance
          return combine waiting (unionOf items.reverse)
      | _ =>
          match operationOf? scan.rest with
          | some kind =>
              set { scan with rest := scan.rest.drop 2 }
              readClassContent limit (some (kind, combine waiting (unionOf items.reverse))) []
          | none =>
              let item ← readClassRange
              readClassContent limit waiting (item :: items)

/-- A class in brackets. -/
def readClass : Reading Node := do
  let limit := (← get).rest.length + 1
  let (negated, opening) ← readClassOpening
  return .bracketed negated (← readClassContent limit none opening.reverse)

/-! ### Repetitions -/

/-- Whether something that can be repeated stands last. -/
def repeatable : Node → Bool
  | .empty => false
  | .flags _ => false
  | _ => true

/-- The sign that makes a repetition prefer few rounds; it does not change what is matched. -/
def skipLazy : Reading Unit := do
  if (← peek?) = some '?' then advance

/-- One more than the greatest count. -/
def countLimit : Nat := 1 <<< 32

/-- Over blanks, whether or not they are ignored. -/
def skipBlanks : Reading Unit :=
  modify fun scan => { scan with rest := scan.rest.dropWhile isBlank }

/-- A count with blanks around it. -/
def readCount : Reading Nat := do
  skipBlanks
  let digits ← takeWhile Char.isDigit
  skipBlanks
  skipIgnored
  require !digits.isEmpty
  let count := digits.foldl (fun value digit => value * 10 + (digit.toNat - '0'.toNat)) 0
  require (count < countLimit)
  return count

/-- The counts of a repetition, from the brace on. -/
def readCounts : Reading (Nat × Option Nat) := do
  advanceIgnoring
  let _ ← peek
  let least ← readCount
  let most ←
    if (← peek) = ',' then do
      advanceIgnoring
      if (← peek) = '\x7d' then pure none
      else do
        let most ← readCount
        pure (some most)
    else pure (some least)
  require ((← peek) = '\x7d')
  advanceIgnoring
  skipLazy
  match most with
  | some most =>
      require (least ≤ most)
      return (least, some most)
  | none => return (least, none)

/-- The counts of a repetition with a sign of its own. -/
def signCounts : Char → Nat × Option Nat
  | '?' => (0, some 1)
  | '+' => (1, none)
  | _ => (0, none)

/-! ### Groups -/

/-- The characters of a property that has a name in the tables. -/
def charactersNamed (table : List (String × String)) (name : String) : Ranges :=
  match table.find? fun entry => (entry.1.splitOn " ").contains name with
  | some entry => Ranges.ofText entry.2
  | none => []

/-- The characters that are letters or like letters. -/
def alphabetic : Ranges := charactersNamed propertyTable "alphabetic"

/-- The characters that stand for numbers. -/
def numeric : Ranges :=
  charactersNamed categoryTable "nd" ++ charactersNamed categoryTable "nl" ++
    charactersNamed categoryTable "no"

/-- Whether the character may stand first in the name of a group. -/
def isNameStart (character : Char) : Bool := character == '_' || alphabetic.holds character

/-- Whether the character may stand in the name of a group. -/
def isNamePart (character : Char) : Bool :=
  isNameStart character || character == '.' || character == '[' || character == ']' ||
    numeric.holds character

/-- The name of a group up to its closing sign. Every name may be used once. -/
def readGroupName : Reading Unit := do
  let scan ← get
  let name := scan.rest.takeWhile (· != '>')
  require (name.length < scan.rest.length)
  match name with
  | [] => failure
  | first :: others =>
      require (isNameStart first && others.all isNamePart)
      let text := String.ofList name
      require !scan.names.contains text
      set { scan with rest := scan.rest.drop (name.length + 1), names := text :: scan.names }

/-- The flags of a group up to the sign behind them. No flag may be written twice, and the minus
has to be followed by a flag. -/
def readFlags : Nat → Bool → FlagChanges → Reading FlagChanges
  | 0, _, _ => failure
  | limit + 1, on, changes => do
      let letter ← peek
      if letter = ':' ∨ letter = ')' then return changes
      else if letter = '-' then
        require on
        advance
        let next ← peek
        require (next ≠ ':' && next ≠ ')')
        readFlags limit false changes
      else
        let flag ← StateT.lift (Flag.ofLetter? letter)
        require !(changes.map Prod.fst).contains flag
        advance
        readFlags limit on (changes ++ [(flag, on)])

/-- Whether a group asks for what stands around it, which no pattern can. -/
def isLookAround (text : List Char) : Bool :=
  ["?=", "?!", "?<=", "?<!"].any fun opening => opening.toList.isPrefixOf text

/-- What an opening parenthesis begins: a group under changed flags, or a change of flags for the
rest of the group it stands in. -/
inductive Opening where
  | group (changes : FlagChanges)
  | flags (changes : FlagChanges)

/-- The beginning of a group, from its parenthesis on. -/
def readOpening : Reading Opening := do
  advanceIgnoring
  require !isLookAround (← get).rest
  if ← takeText ['?', 'P', '<'] then
    readGroupName
    return .group []
  else if ← takeText ['?', '<'] then
    readGroupName
    return .group []
  else if ← takeText ['?'] then
    let changes ← readFlags ((← get).rest.length + 1) true []
    let sign ← peek
    advance
    if sign = ')' then
      require !changes.isEmpty
      return .flags changes
    else return .group changes
  else return .group []

/-- Whether blanks are ignored under changed flags. -/
def extendedUnder (changes : FlagChanges) (before : Bool) : Bool :=
  (changes.lookup .extended).getD before

/-! ### Patterns -/

/-- The parts as one node. -/
def sequenceOf : List Node → Node
  | [] => .empty
  | [part] => part
  | parts => .sequence parts

/-- The branches as one node. -/
def choiceOf : List Node → Node
  | [branch] => branch
  | branches => .choice branches

/-- An escape as a part of a pattern. -/
def partOf : Escaped → Node
  | .letter written => .letter written
  | .short negated kind => .short negated kind
  | .property negated name => .property negated name
  | .assertion kind => .assertion kind

/-- A part that is written with one sign or escape. -/
def readSimple (character : Char) : Reading Node := do
  if character = '\\' then return partOf (← readEscape)
  else
    advance
    match character with
    | '.' => return .dot
    | '^' => return .assertion .lineStart
    | '$' => return .assertion .lineEnd
    | _ => return .letter ⟨character, false⟩

/-- Replaces the last part by a repetition of it. -/
def repeatLast (counts : Nat × Option Nat) : List Node → Reading (List Node)
  | [] => failure
  | last :: parts => do
      require (repeatable last)
      return .repeated counts.1 counts.2 last :: parts

/-- The alternatives up to the end of the group they stand in, or of the text: the parts of the
current branch and the branches before it, last first. -/
def readBranches (grouped : Bool) : Nat → List Node → List Node → Reading Node
  | 0, _, _ => failure
  | limit + 1, branches, parts => do
      skipIgnored
      let finished := choiceOf ((sequenceOf parts.reverse :: branches).reverse)
      match ← peek? with
      | none =>
          require !grouped
          return finished
      | some '(' =>
          let before := (← get).extended
          match ← readOpening with
          | .flags changes =>
              modify fun scan => { scan with extended := extendedUnder changes before }
              readBranches grouped limit branches (.flags changes :: parts)
          | .group changes =>
              modify fun scan => { scan with extended := extendedUnder changes before }
              let content ← readBranches true limit [] []
              modify fun scan => { scan with extended := before }
              readBranches grouped limit branches (.group changes content :: parts)
      | some ')' =>
          require grouped
          advance
          return finished
      | some '|' =>
          advance
          readBranches grouped limit (sequenceOf parts.reverse :: branches) []
      | some '[' =>
          let part ← readClass
          readBranches grouped limit branches (part :: parts)
      | some '\x7b' =>
          require (parts.head?.any repeatable)
          let counts ← readCounts
          let parts ← repeatLast counts parts
          readBranches grouped limit branches parts
      | some character =>
          if character = '?' ∨ character = '*' ∨ character = '+' then
            advance
            skipLazy
            let parts ← repeatLast (signCounts character) parts
            readBranches grouped limit branches parts
          else
            let part ← readSimple character
            readBranches grouped limit branches (part :: parts)

/-- How deep the parts of a pattern may be nested. -/
def depthLimit : Nat := 250

/-- The pattern that a text spells. -/
def Node.read? (source : String) : Option Node := do
  let scan : Scan := ⟨source.toList, false, []⟩
  let (node, _) ← (readBranches false (scan.rest.length + 1) [] []).run scan
  if node.depth ≤ depthLimit then some node else none

end JsonShape.Pattern
