/-
This file resolves the flags of a pattern and gives the expression it stands for. A
change of flags holds for the rest of the group it stands in, across alternatives.
Where case is ignored, a class holds whatever differs from one of its characters in
case alone, before it is negated. Outside of Unicode a class is a set of bytes, and
one that holds a byte beyond ASCII has no meaning, because it could match a part of
a character.
-/

import JsonShape.Pattern.Expression

namespace JsonShape.Pattern

/-! ### Flags -/

/-- The flags that hold at some place of a pattern. -/
structure Flags where
  ignoreCase : Bool
  multiLine : Bool
  dotAll : Bool
  unicode : Bool
  carriageReturns : Bool

namespace Flags

/-- The flags at the beginning of a pattern. -/
def initial : Flags := ⟨false, false, false, true, false⟩

/-- The flags after one change. The preference for few rounds and the blanks do not count here. -/
def change (flags : Flags) (entry : Flag × Bool) : Flags :=
  match entry.1 with
  | .ignoreCase => { flags with ignoreCase := entry.2 }
  | .multiLine => { flags with multiLine := entry.2 }
  | .dotAll => { flags with dotAll := entry.2 }
  | .unicode => { flags with unicode := entry.2 }
  | .carriageReturns => { flags with carriageReturns := entry.2 }
  | .swapGreed => flags
  | .extended => flags

/-- The flags after several changes. -/
def apply (flags : Flags) (changes : FlagChanges) : Flags := changes.foldl change flags

end Flags

/-! ### Sets -/

/-- The characters that are in one of the sets. -/
def CharacterSet.union (first second : CharacterSet) : CharacterSet :=
  ⟨fun character => first.holds character || second.holds character, first.size + second.size⟩

/-- The characters that are not in the set. -/
def CharacterSet.complement (set : CharacterSet) : CharacterSet :=
  ⟨fun character => !set.holds character, set.size + 1⟩

/-- The set, negated on demand. -/
def CharacterSet.negatedIf (set : CharacterSet) (negated : Bool) : CharacterSet :=
  if negated then set.complement else set

/-- The characters from one to another. -/
def CharacterSet.between (low high : Char) : CharacterSet :=
  ⟨fun character => low ≤ character && character ≤ high, 1⟩

/-- The set with everything that differs from one of its characters in case alone, if case is
ignored. -/
def CharacterSet.folded (set : CharacterSet) (flags : Flags) : CharacterSet :=
  if flags.ignoreCase then
    let variants := if flags.unicode then caseVariants else asciiVariants
    ⟨fun character => (variants character).any set.holds, 2 * set.size⟩
  else set

/-- Whether a set of bytes holds no byte beyond ASCII. -/
def CharacterSet.withinAscii (set : CharacterSet) : Bool :=
  (List.range 0x80).all fun code => !set.holds (Char.ofNat (0x80 + code))

/-- The set, if it has a meaning under the flags. -/
def CharacterSet.checked? (set : CharacterSet) (flags : Flags) : Option CharacterSet :=
  if flags.unicode || set.withinAscii then some set else none

/-- The characters of a named class. -/
def NamedClass.holds (kind : NamedClass) (character : Char) : Bool :=
  let code := character.toNat
  code < 0x80 &&
    match kind with
    | .alnum => character.isAlphanum
    | .alpha => character.isAlpha
    | .ascii => true
    | .blank => character == ' ' || character == '\t'
    | .cntrl => code < 0x20 || code == 0x7F
    | .digit => character.isDigit
    | .graph => 0x21 ≤ code && code ≤ 0x7E
    | .lower => character.isLower
    | .print => 0x20 ≤ code && code ≤ 0x7E
    | .punct => 0x21 ≤ code && code ≤ 0x7E && !character.isAlphanum
    | .space => character == ' ' || (9 ≤ code && code ≤ 13)
    | .upper => character.isUpper
    | .word => isAsciiWord character
    | .xdigit =>
        character.isDigit || ('a' ≤ character && character ≤ 'f') ||
          ('A' ≤ character && character ≤ 'F')

/-- The characters of a class with a letter. -/
def ShortClass.set (kind : ShortClass) (flags : Flags) : CharacterSet :=
  if flags.unicode then
    match kind with
    | .digit => .ofRanges digitRanges
    | .space => ⟨isBlank, 10⟩
    | .word => .ofRanges wordRanges
  else
    match kind with
    | .digit => ⟨NamedClass.digit.holds, 1⟩
    | .space => ⟨NamedClass.space.holds, 1⟩
    | .word => ⟨NamedClass.word.holds, 1⟩

/-- The set of a short class. -/
def shortSet? (flags : Flags) (negated : Bool) (kind : ShortClass) : Option CharacterSet :=
  ((kind.set flags).negatedIf negated).checked? flags

/-- The set of a property, which only Unicode knows. -/
def propertySet? (flags : Flags) (negated : Bool) (name : PropertyName) : Option CharacterSet :=
  if flags.unicode then
    name.set?.map fun set => (set.folded flags).negatedIf negated
  else none

/-- The character of a letter inside a class: outside of Unicode it has to be a byte. -/
def classLetter? (flags : Flags) (letter : Letter) : Option Char :=
  if flags.unicode || letter.byte || letter.character.toNat < 0x80 then some letter.character
  else none

/-! ### Classes -/

/-- Combines two sets. -/
def ClassOperation.apply (kind : ClassOperation) (left right : CharacterSet) : CharacterSet :=
  let size := left.size + right.size
  match kind with
  | .intersection =>
      ⟨fun character => left.holds character && right.holds character, size⟩
  | .difference =>
      ⟨fun character => left.holds character && !right.holds character, size⟩
  | .symmetricDifference =>
      ⟨fun character => left.holds character != right.holds character, size⟩

mutual

/-- The set of what stands in the brackets of a class. -/
def ClassSet.set? (flags : Flags) : ClassSet → Option CharacterSet
  | .letter written => do
      let character ← classLetter? flags written
      return .between character character
  | .range low high => do
      return .between (← classLetter? flags low) (← classLetter? flags high)
  | .named negated kind =>
      (((CharacterSet.mk kind.holds 1).folded flags).negatedIf negated).checked? flags
  | .short negated kind => shortSet? flags negated kind
  | .property negated name => propertySet? flags negated name
  | .bracketed negated content => do
      let set ← ClassSet.set? flags content
      ((set.folded flags).negatedIf negated).checked? flags
  | .union items => ClassSet.setOfAll? flags items
  | .operation kind left right => do
      let left ← ClassSet.set? flags left
      let right ← ClassSet.set? flags right
      return kind.apply (left.folded flags) (right.folded flags)

/-- The set of several items together. -/
def ClassSet.setOfAll? (flags : Flags) : List ClassSet → Option CharacterSet
  | [] => some ⟨fun _ => false, 1⟩
  | item :: items => do
      return (← ClassSet.set? flags item).union (← ClassSet.setOfAll? flags items)

end

/-! ### Letters and assertions -/

/-- The number of bytes that a letter takes. -/
def letterSet (character : Char) : CharacterSet :=
  ⟨fun other => other == character, character.utf8Size⟩

/-- The expression of a letter. Outside of Unicode a byte beyond ASCII has no meaning, and neither
has a letter beyond ASCII whose case is ignored. -/
def letterExpression? (flags : Flags) (letter : Letter) : Option Expression :=
  let character := letter.character
  let plain := character.toNat < 0x80
  if !flags.unicode && letter.byte && !plain then none
  else if flags.ignoreCase then
    if flags.unicode || plain then some (.set ((letterSet character).folded flags)) else none
  else some (.set (letterSet character))

/-- The expression of the dot: any character, or any but the end of a line. -/
def dotExpression? (flags : Flags) : Option Expression :=
  if !flags.unicode then none
  else some (.set ⟨fun character =>
    flags.dotAll || (character != '\n' && !(flags.carriageReturns && character == '\r')), 15⟩)

/-- What an assertion asks under the flags. -/
def Assertion.look (assertion : Assertion) (flags : Flags) : Look :=
  match assertion with
  | .lineStart =>
      if !flags.multiLine then .textStart
      else if flags.carriageReturns then .returnLineStart else .lineStart
  | .lineEnd =>
      if !flags.multiLine then .textEnd
      else if flags.carriageReturns then .returnLineEnd else .lineEnd
  | .textStart => .textStart
  | .textEnd => .textEnd
  | .wordBoundary => .boundary flags.unicode
  | .notWordBoundary => .noBoundary flags.unicode
  | .wordStart => .wordStart flags.unicode
  | .wordEnd => .wordEnd flags.unicode
  | .wordStartHalf => .noWordBefore flags.unicode
  | .wordEndHalf => .noWordAfter flags.unicode

/-! ### Patterns -/

mutual

/-- The expression of a node, and the flags that hold behind it. -/
def Node.expression? (flags : Flags) : Node → Option (Expression × Flags)
  | .empty => some (.empty, flags)
  | .letter written => do return (← letterExpression? flags written, flags)
  | .dot => do return (← dotExpression? flags, flags)
  | .short negated kind => do return (.set (← shortSet? flags negated kind), flags)
  | .property negated name => do return (.set (← propertySet? flags negated name), flags)
  | .bracketed negated content => do
      let set ← content.set? flags
      return (.set (← ((set.folded flags).negatedIf negated).checked? flags), flags)
  | .assertion kind => some (.look (kind.look flags), flags)
  | .flags changes => some (.empty, flags.apply changes)
  | .repeated least most content => do
      let (expression, flags) ← Node.expression? flags content
      return (.repeated least most expression, flags)
  | .group changes content => do
      let (expression, _) ← Node.expression? (flags.apply changes) content
      return (expression, flags)
  | .sequence parts => do
      let (parts, flags) ← Node.expressions? flags parts
      return (.sequence parts, flags)
  | .choice branches => do
      let (branches, flags) ← Node.expressions? flags branches
      return (.choice branches, flags)

/-- The expressions of several nodes, one after the other. -/
def Node.expressions? (flags : Flags) : List Node → Option (List Expression × Flags)
  | [] => some ([], flags)
  | node :: nodes => do
      let (expression, flags) ← Node.expression? flags node
      let (expressions, flags) ← Node.expressions? flags nodes
      return (expression :: expressions, flags)

end

end JsonShape.Pattern
