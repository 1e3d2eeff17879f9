/-
This file cuts texts at a separator. A text with `n` separators has `n + 1` pieces, so
there is always one (`pieces_ne_nil`).
-/

namespace JsonShape

/-- Puts a character in front of the first piece. -/
def extendFirst (character : Char) : List (List Char) → List (List Char)
  | [] => [[character]]
  | first :: others => (character :: first) :: others

/-- The pieces between the separators. -/
def pieces (separator : Char) : List Char → List (List Char)
  | [] => [[]]
  | character :: rest =>
      if character = separator then [] :: pieces separator rest
      else extendFirst character (pieces separator rest)

theorem pieces_ne_nil (separator : Char) (text : List Char) : pieces separator text ≠ [] := by
  cases text with
  | nil => simp [pieces]
  | cons character rest =>
    by_cases same : character = separator
    · simp [pieces, same]
    · cases found : pieces separator rest <;> simp [pieces, same, extendFirst, found]

end JsonShape
