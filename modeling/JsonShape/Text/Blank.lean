/-
This file says which characters count as blank, takes them off the ends of a text
and tells texts that consist of nothing else. The characters are those with the
Unicode property White_Space, of which `Char.isWhitespace` knows only a few.
-/

namespace JsonShape

/-- The characters with the property White_Space. -/
def isBlank (character : Char) : Bool :=
  let code := character.toNat
  (9 ≤ code && code ≤ 13) || code == 0x20 || code == 0x85 || code == 0xA0 || code == 0x1680 ||
    (0x2000 ≤ code && code ≤ 0x200A) || code == 0x2028 || code == 0x2029 || code == 0x202F ||
    code == 0x205F || code == 0x3000

/-- The text without the blanks at its ends. -/
def trim (text : List Char) : List Char :=
  ((text.dropWhile isBlank).reverse.dropWhile isBlank).reverse

/-- Whether a text has no character that is not blank. -/
def blank (text : String) : Bool := text.toList.all isBlank

/-- A text is blank exactly if trimming leaves nothing of it. -/
theorem all_isBlank_iff (text : List Char) : text.all isBlank = true ↔ trim text = [] := by
  constructor
  · intro all
    have empty : text.dropWhile isBlank = [] := by
      induction text with
      | nil => rfl
      | cons first rest inductionHypothesis =>
        simp only [List.all_cons, Bool.and_eq_true] at all
        rw [List.dropWhile_cons_of_pos all.1]
        exact inductionHypothesis all.2
    simp [trim, empty]
  · intro empty
    have trimmed : (text.dropWhile isBlank).reverse.dropWhile isBlank = [] := by
      simpa [trim] using empty
    cases remaining : text.dropWhile isBlank with
    | nil =>
      rw [List.all_eq_true]
      intro character member
      have split := List.takeWhile_append_dropWhile (p := isBlank) (l := text)
      rw [remaining, List.append_nil] at split
      rw [← split] at member
      exact List.all_eq_true.mp List.all_takeWhile character member
    | cons first rest =>
      exfalso
      have firstDark : ¬ isBlank first = true := by
        have head := List.head?_dropWhile_not isBlank text
        rw [remaining] at head
        simpa using head
      have everyBlank :
          ∀ character ∈ (text.dropWhile isBlank).reverse, isBlank character = true := by
        intro character member
        have split := List.takeWhile_append_dropWhile (p := isBlank)
          (l := (text.dropWhile isBlank).reverse)
        rw [trimmed, List.append_nil] at split
        rw [← split] at member
        exact List.all_eq_true.mp List.all_takeWhile character member
      exact firstDark (everyBlank first (by simp [remaining]))

end JsonShape
