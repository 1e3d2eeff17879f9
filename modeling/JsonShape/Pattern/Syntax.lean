/-
This file holds the syntax of patterns as it is written: literals, classes of
characters, assertions, repetitions, groups, alternatives, and the flags that change
how the rest of a group is understood. What a node means depends on the flags that
hold where it stands, so nothing is resolved here.
-/

namespace JsonShape.Pattern

/-! ### Flags -/

/-- What can be switched on and off inside a pattern. -/
inductive Flag where
  | ignoreCase
  | multiLine
  | dotAll
  | swapGreed
  | unicode
  | carriageReturns
  | extended
deriving DecidableEq

/-- The letter of a flag. -/
def Flag.ofLetter? : Char → Option Flag
  | 'i' => some ignoreCase
  | 'm' => some multiLine
  | 's' => some dotAll
  | 'U' => some swapGreed
  | 'u' => some unicode
  | 'R' => some carriageReturns
  | 'x' => some extended
  | _ => none

/-- Flags and whether they are switched on, in the order in which they are written. -/
abbrev FlagChanges := List (Flag × Bool)

/-! ### Characters and classes -/

/-- A character as it is written; `byte` tells that it is given by two hexadecimal digits, which
name a byte where a pattern is not about Unicode. -/
structure Letter where
  character : Char
  byte : Bool
deriving DecidableEq

/-- The classes with a letter of their own. -/
inductive ShortClass where
  | digit
  | space
  | word
deriving DecidableEq

/-- The classes of ASCII characters that are written by name in brackets. -/
inductive NamedClass where
  | alnum
  | alpha
  | ascii
  | blank
  | cntrl
  | digit
  | graph
  | lower
  | print
  | punct
  | space
  | upper
  | word
  | xdigit
deriving DecidableEq

/-- The class of a name. -/
def NamedClass.ofName? : String → Option NamedClass
  | "alnum" => some alnum
  | "alpha" => some alpha
  | "ascii" => some ascii
  | "blank" => some blank
  | "cntrl" => some cntrl
  | "digit" => some digit
  | "graph" => some graph
  | "lower" => some lower
  | "print" => some print
  | "punct" => some punct
  | "space" => some space
  | "upper" => some upper
  | "word" => some word
  | "xdigit" => some xdigit
  | _ => none

/-- A Unicode property: by one name, or by the name of a property and a value. -/
inductive PropertyName where
  | single (name : String)
  | pair (property value : String)
deriving DecidableEq

/-- How two classes are combined inside brackets. -/
inductive ClassOperation where
  | intersection
  | difference
  | symmetricDifference
deriving DecidableEq

/-- What stands inside the brackets of a class. -/
inductive ClassSet where
  | letter (written : Letter)
  | range (low high : Letter)
  | named (negated : Bool) (kind : NamedClass)
  | short (negated : Bool) (kind : ShortClass)
  | property (negated : Bool) (name : PropertyName)
  | bracketed (negated : Bool) (content : ClassSet)
  | union (items : List ClassSet)
  | operation (kind : ClassOperation) (left right : ClassSet)

/-! ### Assertions -/

/-- What an assertion asks of the place where it stands. -/
inductive Assertion where
  | lineStart
  | lineEnd
  | textStart
  | textEnd
  | wordBoundary
  | notWordBoundary
  | wordStart
  | wordEnd
  | wordStartHalf
  | wordEndHalf
deriving DecidableEq

/-! ### Patterns -/

/-- A pattern as it is written. -/
inductive Node where
  | empty
  | letter (written : Letter)
  | dot
  | short (negated : Bool) (kind : ShortClass)
  | property (negated : Bool) (name : PropertyName)
  | bracketed (negated : Bool) (content : ClassSet)
  | assertion (kind : Assertion)
  | flags (changes : FlagChanges)
  | repeated (least : Nat) (most : Option Nat) (content : Node)
  | group (changes : FlagChanges) (content : Node)
  | sequence (parts : List Node)
  | choice (branches : List Node)

/-! ### Nesting -/

mutual

/-- How deep the brackets of a class are nested. -/
def ClassSet.depth : ClassSet → Nat
  | .bracketed _ content => content.depth + 1
  | .union items => ClassSet.depthOfAll items + 1
  | .operation _ left right => max left.depth right.depth + 1
  | _ => 0

/-- The greatest depth of several sets. -/
def ClassSet.depthOfAll : List ClassSet → Nat
  | [] => 0
  | item :: items => max item.depth (ClassSet.depthOfAll items)

end

mutual

/-- How deep the parts of a pattern are nested. -/
def Node.depth : Node → Nat
  | .bracketed _ content => content.depth + 1
  | .repeated _ _ content => content.depth + 1
  | .group _ content => content.depth + 1
  | .sequence parts => Node.depthOfAll parts + 1
  | .choice branches => Node.depthOfAll branches + 1
  | _ => 0

/-- The greatest depth of several patterns. -/
def Node.depthOfAll : List Node → Nat
  | [] => 0
  | node :: nodes => max node.depth (Node.depthOfAll nodes)

end

end JsonShape.Pattern
