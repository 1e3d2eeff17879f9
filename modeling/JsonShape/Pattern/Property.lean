/-
This file finds the characters that have a Unicode property, by any of the names the
property goes by. Names are compared without regard to case, blanks, dashes and low
lines, and with or without an `is` in front. A name alone can be that of a property,
of a general category or of a script; with a value, the property is named as well.
-/

import JsonShape.Pattern.Syntax
import JsonShape.Pattern.Table.Category
import JsonShape.Pattern.Table.Folding
import JsonShape.Pattern.Table.Property
import JsonShape.Pattern.Table.Script
import JsonShape.Pattern.Table.ScriptExtension
import JsonShape.Text.Ranges

namespace JsonShape.Pattern

/-! ### Names -/

/-- The letters of a name that count, in lower case. -/
def looseLetters (name : List Char) : List Char :=
  (name.filter fun character =>
    character.toNat < 0x80 && character != ' ' && character != '_' && character != '-').map
      Char.toLower

/-- A name as it stands in the tables. With `is` in front of it, `c` is a name of its own. -/
def looseName (name : String) : String :=
  match name.toList with
  | first :: second :: rest =>
      if first.toLower = 'i' ∧ second.toLower = 's' then
        let letters := looseLetters rest
        String.ofList (if letters = ['c'] then 'i' :: 's' :: letters else letters)
      else String.ofList (looseLetters (first :: second :: rest))
  | letters => String.ofList (looseLetters letters)

/-- The characters under a name of a table. -/
def tableRanges? (table : List (String × String)) (name : String) : Option Ranges :=
  (table.find? fun entry => (entry.1.splitOn " ").contains name).map fun entry =>
    Ranges.ofText entry.2

/-! ### Sets of characters -/

/-- A set of characters, with a measure of how much room its description takes. -/
structure CharacterSet where
  holds : Char → Bool
  size : Nat

/-- The set of the characters in the ranges. -/
def CharacterSet.ofRanges (ranges : Ranges) : CharacterSet :=
  ⟨ranges.holds, 2 * ranges.count⟩

/-- The categories that are groups of others, by their names: the first letters of their members. -/
def categoryGroups : List (String × List String) :=
  [ ("l letter", ["lu", "ll", "lt", "lm", "lo"]),
    ("lc casedletter", ["lu", "ll", "lt"]),
    ("m mark combiningmark", ["mn", "mc", "me"]),
    ("n number", ["nd", "nl", "no"]),
    ("p punctuation punct", ["pc", "pd", "ps", "pe", "pi", "pf", "po"]),
    ("s symbol", ["sm", "sc", "sk", "so"]),
    ("z separator", ["zs", "zl", "zp"]) ]

/-- The characters of some categories together. -/
def rangesOfCategories (names : List String) : Ranges :=
  names.flatMap fun name => (tableRanges? categoryTable name).getD []

/-- The characters that have a category other than that of unassigned code points. -/
def assigned : Ranges := categoryTable.flatMap fun entry => Ranges.ofText entry.2

/-- The characters of a general category. -/
def category? (name : String) : Option CharacterSet :=
  match name with
  | "any" => some ⟨fun _ => true, 1⟩
  | "ascii" => some ⟨fun character => character.toNat < 0x80, 1⟩
  | "assigned" => some (.ofRanges assigned)
  | "cn" => unassigned
  | "unassigned" => unassigned
  | "c" => other
  | "other" => other
  | name =>
      match categoryGroups.find? fun group => (group.1.splitOn " ").contains name with
      | some group => some (.ofRanges (rangesOfCategories group.2))
      | none => (tableRanges? categoryTable name).map .ofRanges
where
  unassigned : Option CharacterSet :=
    some ⟨fun character => !assigned.holds character, 2 * assigned.count⟩
  other : Option CharacterSet :=
    let controls := rangesOfCategories ["cc", "cf", "co"]
    some ⟨fun character => controls.holds character || !assigned.holds character,
      2 * assigned.count⟩

/-- The characters of a script. -/
def script? (name : String) : Option CharacterSet :=
  (tableRanges? scriptTable name).map .ofRanges

/-- The characters that are used with a script. -/
def scriptExtension? (name : String) : Option CharacterSet :=
  match tableRanges? scriptExtensionTable name with
  | some ranges => some (.ofRanges ranges)
  | none => script? name

/-- The names that stand for a category although a property bears them as well. -/
def categoryFirst : List String := ["cf", "sc", "lc"]

/-- The characters with a property. -/
def PropertyName.set? : PropertyName → Option CharacterSet
  | .single name =>
      let name := looseName name
      match if categoryFirst.contains name then none else tableRanges? propertyTable name with
      | some ranges => some (.ofRanges ranges)
      | none =>
          match category? name with
          | some set => some set
          | none => script? name
  | .pair property value =>
      let value := looseName value
      match looseName property with
      | "gc" => category? value
      | "generalcategory" => category? value
      | "sc" => script? value
      | "script" => script? value
      | "scx" => scriptExtension? value
      | "scriptextensions" => scriptExtension? value
      | _ => none

/-! ### Classes with letters -/

/-- The characters that words consist of. -/
def wordRanges : Ranges :=
  (tableRanges? propertyTable "alphabetic").getD [] ++
    rangesOfCategories ["mn", "mc", "me", "nd", "pc"] ++
    (tableRanges? propertyTable "joincontrol").getD []

/-- The digits of all scripts. -/
def digitRanges : Ranges := rangesOfCategories ["nd"]

/-! ### Case -/

/-- The groups of characters that differ in case alone. -/
def foldingGroups : List (List Nat) :=
  (foldingTable.splitOn " ").map fun group =>
    (Ranges.ofText (" ".intercalate (group.splitOn "-"))).map Prod.fst

/-- The characters that differ from a character in case alone, the character itself among them. -/
def caseVariants (character : Char) : List Char :=
  match foldingGroups.find? fun group => group.contains character.toNat with
  | some group => group.map Char.ofNat
  | none => [character]

/-- The ASCII letters that differ from a character in case alone, the character itself among
them. -/
def asciiVariants (character : Char) : List Char :=
  if character.isLower then [character, character.toUpper]
  else if character.isUpper then [character, character.toLower]
  else [character]

end JsonShape.Pattern
