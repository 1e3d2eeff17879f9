/-
This file holds sets of characters that are given by ranges of code points, and the
form in which the larger tables of this library are written: hexadecimal code
points, a dash between the ends of a range, blanks between the ranges.
-/

namespace JsonShape

/-- A set of characters as a list of closed ranges of code points. -/
abbrev Ranges := List (Nat × Nat)

namespace Ranges

/-- Whether the character lies in one of the ranges. -/
def holds (ranges : Ranges) (character : Char) : Bool :=
  ranges.any fun range => range.1 ≤ character.toNat && character.toNat ≤ range.2

/-- Adds a range behind others that begin no later, last first; ranges that touch become one. -/
def absorb : Ranges → Nat × Nat → Ranges
  | [], range => [range]
  | (low, high) :: earlier, range =>
      if range.1 ≤ high + 1 then (low, max high range.2) :: earlier
      else range :: (low, high) :: earlier

/-- How many ranges are left when those that overlap or touch become one. -/
def count (ranges : Ranges) : Nat :=
  ((ranges.mergeSort fun first second => first.1 ≤ second.1).foldl absorb []).length

/-- The value of a hexadecimal digit. -/
def hexDigit? (character : Char) : Option Nat :=
  if character.isDigit then some (character.toNat - '0'.toNat)
  else if 'a' ≤ character ∧ character ≤ 'f' then some (character.toNat - 'a'.toNat + 10)
  else if 'A' ≤ character ∧ character ≤ 'F' then some (character.toNat - 'A'.toNat + 10)
  else none

/-- What has been read of a written table: the ranges so far, last first, and the parts of the
range that is being read. -/
structure Draft where
  finished : Ranges
  low : Option Nat
  current : Option Nat

namespace Draft

/-- Completes the range that is being read, if there is one. -/
def close (draft : Draft) : Draft :=
  match draft.current with
  | none => draft
  | some high => ⟨(draft.low.getD high, high) :: draft.finished, none, none⟩

/-- Reads one character of a written table. -/
def read (draft : Draft) (character : Char) : Draft :=
  match hexDigit? character with
  | some digit => { draft with current := some (draft.current.getD 0 * 16 + digit) }
  | none =>
      if character = '-' then { draft with low := draft.current, current := none }
      else draft.close

end Draft

/-- The ranges of a written table. -/
def ofText (text : String) : Ranges :=
  ((text.foldl Draft.read ⟨[], none, none⟩).close).finished.reverse

end Ranges

end JsonShape
