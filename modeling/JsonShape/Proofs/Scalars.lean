/-
This file shows that strings and integers read back from their texts. A reader reads a
text back in front of what follows it if it gives the content and stops exactly where
the text ends, wherever the text begins (`Reads`). After a string anything may follow,
because its closing quote ends it. A number ends only where something stands that
cannot belong to it; in a text without blanks that is the end, a comma or a closing
bracket or brace (`Follows`).
-/

import JsonShape.Json.Printer
import JsonShape.Json.Reader
import JsonShape.Text.Blank

namespace JsonShape

/-- Wherever the text stands in front of the rest, the reader gives the content and goes on with the
rest. -/
def Reads {Content : Type} (read : Reader Content) (text : List Char) (content : Content)
    (rest : List Char) : Prop :=
  ∀ offset, ∃ after, read ⟨text ++ rest, offset⟩ = .ok (content, ⟨rest, after⟩)

/-- What may follow a value: nothing, or a sign that belongs to the array or object around it. -/
inductive Follows : List Char → Prop
  | nothing : Follows []
  | comma (rest : List Char) : Follows (',' :: rest)
  | bracket (rest : List Char) : Follows (']' :: rest)
  | brace (rest : List Char) : Follows ('\x7d' :: rest)

/-! ### Digits -/

theorem isDigit_iff {character : Char} :
    character.isDigit = true ↔ 48 ≤ character.toNat ∧ character.toNat ≤ 57 := by
  simp only [Char.isDigit, Bool.and_eq_true, decide_eq_true_eq, ge_iff_le, UInt32.le_iff_toNat_le]
  exact Iff.rfl

theorem isBlank_of_isDigit {character : Char} (digit : character.isDigit = true) :
    isBlank character = false := by
  have bounds := isDigit_iff.mp digit
  simp only [isBlank, Bool.or_eq_false_iff, Bool.and_eq_false_iff, decide_eq_false_iff_not,
    beq_eq_false_iff_ne]
  omega

theorem le_ofDigitChars (digits : List Char) (value : Nat) :
    value ≤ Nat.ofDigitChars 10 digits value := by
  rw [Nat.ofDigitChars_eq_ofDigitChars_zero]
  have positive : 0 < 10 ^ digits.length := Nat.pow_pos (by decide)
  exact Nat.le_trans (Nat.le_mul_of_pos_left value positive) (Nat.le_add_right _ _)

/-- As long as they fit, digits are appended up to the last one. -/
theorem appendDigits_append {limit value : Nat} {digits rest : List Char}
    (each : ∀ character ∈ digits, character.isDigit = true) (ends : startsWithDigit rest = false)
    (fits : Nat.ofDigitChars 10 digits value < limit) :
    appendDigits limit value (digits ++ rest) =
      ⟨Nat.ofDigitChars 10 digits value, digits.length, rest⟩ := by
  induction digits generalizing value with
  | nil =>
    cases rest with
    | nil => rfl
    | cons character rest =>
      have other : character.isDigit = false := ends
      simp [appendDigits, other]
  | cons character digits inductionHypothesis =>
    obtain ⟨digit, others⟩ := List.forall_mem_cons.mp each
    rw [Nat.ofDigitChars_cons, Nat.mul_comm] at fits
    have below := Nat.lt_of_le_of_lt (le_ofDigitChars digits _) fits
    rw [List.cons_append, appendDigits, if_pos ⟨digit, below⟩, digitValue,
      inductionHypothesis others fits, Nat.ofDigitChars_cons, Nat.mul_comm 10,
      List.length_cons]

theorem isDigit_of_mem_digitsOf {value : Nat} {character : Char}
    (member : character ∈ digitsOf value) : character.isDigit = true :=
  Nat.isDigit_of_mem_toDigits (by decide) (by decide) member

theorem exists_digitsOf_eq_cons (value : Nat) :
    ∃ first others, digitsOf value = first :: others ∧ first.isDigit = true := by
  obtain ⟨first, others, written⟩ := List.exists_cons_of_ne_nil
    (Nat.toDigits_ne_nil : digitsOf value ≠ [])
  exact ⟨first, others, written, isDigit_of_mem_digitsOf (written ▸ List.mem_cons_self)⟩

/-- Only zero is written with a zero in front. -/
theorem exists_digitsOf_of_pos {value : Nat} (positive : 0 < value) :
    ∃ first others, digitsOf value = first :: others ∧ first.isDigit = true ∧ first ≠ '0' := by
  induction value using Nat.strongRecOn with
  | ind value inductionHypothesis =>
    by_cases small : value < 10
    · refine ⟨Nat.digitChar value, [], Nat.toDigits_of_lt_base small, ?_, ?_⟩
      · rw [Nat.isDigit_digitChar, decide_eq_true small]
      · exact fun zero => Nat.pos_iff_ne_zero.mp positive (Nat.digitChar_eq_zero.mp zero)
    · obtain ⟨first, others, written, form⟩ :=
        inductionHypothesis (value / 10) (by omega) (by omega)
      refine ⟨first, others ++ [Nat.digitChar (value % 10)], ?_, form⟩
      rw [digitsOf, Nat.toDigits_of_base_le (by decide) (Nat.not_lt.mp small), ← digitsOf, written,
        List.cons_append]

/-- The digits of a number that fits are its whole part, and none of them is dropped. -/
theorem readWhole_digitsOf {value : Nat} {rest : List Char} (fits : value < significandLimit)
    (ends : startsWithDigit rest = false) (offset : Nat) :
    readWhole ⟨digitsOf value ++ rest, offset⟩ =
      .ok (value, 0, ⟨rest, offset + (digitsOf value).length⟩) := by
  rcases Nat.eq_zero_or_pos value with rfl | positive
  · simp [digitsOf, Nat.toDigits_zero, readWhole, ends, Cursor.skip]
  · obtain ⟨first, others, written, digit, notZero⟩ := exists_digitsOf_of_pos positive
    have sum : Nat.ofDigitChars 10 (digitsOf value) 0 = value := Nat.ofDigitChars_ten_toDigits
    have all := appendDigits_append (fun _ => isDigit_of_mem_digitsOf) ends (sum.symm ▸ fits)
    have dropped : countDigits rest = 0 := by
      cases rest with
      | nil => rfl
      | cons character rest =>
        have other : character.isDigit = false := ends
        simp [countDigits, other]
    rw [sum] at all
    rw [written, List.cons_append] at all ⊢
    simp [readWhole, digit, all, dropped, Cursor.skip]

/-! ### Integers -/

theorem startsWithDigit_of_follows {rest : List Char} (follows : Follows rest) :
    startsWithDigit rest = false := by
  cases follows <;> rfl

/-- Where a whole part is all of a number, the number is an integer. -/
theorem readAfterWhole_of_follows {rest : List Char} (follows : Follows rest) (negative : Bool)
    (significand offset : Nat) :
    readAfterWhole negative significand 0 ⟨rest, offset⟩ =
      integerOf negative significand ⟨rest, offset⟩ := by
  cases follows <;> simp [readAfterWhole]

theorem integerOf_natAbs (whole : Integer) (cursor : Cursor) :
    integerOf (decide (whole.value < 0)) whole.value.natAbs cursor =
      .ok (.integer whole, cursor) := by
  have bounds := And.intro whole.lower whole.upper
  have sum : (if decide (whole.value < 0) = true then -(whole.value.natAbs : Int)
      else whole.value.natAbs) = whole.value := by
    simp only [decide_eq_true_eq]
    split <;> omega
  have proper : ¬(decide (whole.value < 0) = true ∧ whole.value.natAbs = 0) := by
    simp only [decide_eq_true_eq]
    omega
  rw [integerOf, if_neg proper, sum, Number.ofInt?, dif_pos bounds]

/-- Behind a sign, or without one, the digits are read under it. -/
theorem readNumber_signed (negative : Bool) (value : Nat) (rest : List Char) (offset : Nat) :
    ∃ start, readNumber ⟨signed negative (digitsOf value) ++ rest, offset⟩ =
      (readWhole ⟨digitsOf value ++ rest, start⟩).bind fun (significand, dropped, cursor) =>
        readAfterWhole negative significand dropped cursor := by
  cases negative with
  | true => exact ⟨offset + 1, rfl⟩
  | false =>
    obtain ⟨first, others, written, digit⟩ := exists_digitsOf_eq_cons value
    have noSign : first ≠ '-' := fun sign => by simp [sign] at digit
    refine ⟨offset, ?_⟩
    rw [signed, if_neg Bool.false_ne_true, written, List.cons_append]
    simp [readNumber, noSign, bind]

/-- An integer reads back from its decimal text. -/
theorem reads_integerText (whole : Integer) {rest : List Char} (follows : Follows rest) :
    Reads readNumber (integerText whole.value) (.integer whole) rest := by
  intro offset
  have bounds := And.intro whole.lower whole.upper
  have fits : whole.value.natAbs < significandLimit := by
    simp only [significandLimit]
    omega
  obtain ⟨start, signed⟩ :=
    readNumber_signed (decide (whole.value < 0)) whole.value.natAbs rest offset
  refine ⟨start + (digitsOf whole.value.natAbs).length, ?_⟩
  rw [integerText, signed, readWhole_digitsOf fits (startsWithDigit_of_follows follows)]
  exact (readAfterWhole_of_follows follows _ _ _).trans (integerOf_natAbs whole _)

/-- What an integer is written with in front. -/
theorem exists_integerText_eq_cons (value : Int) :
    ∃ first others, integerText value = first :: others ∧ (first = '-' ∨ first.isDigit = true) := by
  obtain ⟨first, others, written, digit⟩ := exists_digitsOf_eq_cons value.natAbs
  by_cases negative : value < 0
  · exact ⟨'-', digitsOf value.natAbs, by simp [integerText, signed, negative], Or.inl rfl⟩
  · exact ⟨first, others, by simp [integerText, signed, negative, written], Or.inr digit⟩

theorem printable_of_mem_integerText {value : Int} {character : Char}
    (member : character ∈ integerText value) : 0x20 ≤ character.toNat := by
  have digit : character = '-' ∨ character.isDigit = true := by
    unfold integerText signed at member
    split at member
    · exact (List.mem_cons.mp member).imp_right isDigit_of_mem_digitsOf
    · exact Or.inr (isDigit_of_mem_digitsOf member)
  rcases digit with rfl | digit
  · decide
  · exact Nat.le_trans (by decide) (isDigit_iff.mp digit).1

/-! ### Strings -/

theorem hexDigit?_digitChar :
    ∀ digit < 16, Ranges.hexDigit? (Nat.digitChar digit) = some digit := by
  decide

/-- Two hexadecimal digits behind two zeros name a unit below 256. -/
theorem unitOf?_digitChar {unit : Nat} (small : unit < 256) :
    unitOf? '0' '0' (Nat.digitChar (unit / 16)) (Nat.digitChar (unit % 16)) = some unit := by
  have zero : Ranges.hexDigit? '0' = some 0 := by decide
  simp only [unitOf?, zero, hexDigit?_digitChar (unit / 16) (by omega),
    hexDigit?_digitChar (unit % 16) (by omega), Option.bind_eq_bind, Option.bind_some,
    Option.pure_def, Option.some.injEq]
  omega

/-- A character has a short escape, or it is a control character and written by its number, or it
stands for itself. -/
theorem escape_cases (character : Char) :
    (∃ letter, escape character = ['\\', letter] ∧ 0x20 ≤ letter.toNat ∧
        shortEscape? letter = some character) ∨
      (escape character = ['\\', 'u', '0', '0', Nat.digitChar (character.toNat / 16),
          Nat.digitChar (character.toNat % 16)] ∧ character.toNat < 0x20) ∨
      (escape character = [character] ∧ character ≠ '"' ∧ character ≠ '\\' ∧
        ¬character.toNat < 0x20) := by
  unfold escape
  split
  case h_8 quote backslash _ _ _ _ _ =>
    split
    · rename_i control
      exact Or.inr (Or.inl ⟨rfl, control⟩)
    · rename_i printable
      exact Or.inr (Or.inr ⟨rfl, quote, backslash, printable⟩)
  all_goals exact Or.inl ⟨_, rfl, by decide, rfl⟩

/-- An escaped character is read as one character. -/
theorem readCharacters_escape (character : Char) (done rest : List Char) (offset : Nat) :
    ∃ after, readCharacters done (escape character ++ rest) offset =
      readCharacters (character :: done) rest after := by
  rcases escape_cases character with
    ⟨letter, written, _, short⟩ | ⟨written, control⟩ |
      ⟨written, noQuote, noBackslash, printable⟩
  · refine ⟨offset + 2, ?_⟩
    have notUnit : letter ≠ 'u' := fun unit => by simp [unit, shortEscape?] at short
    rw [written, List.cons_append, List.singleton_append, readCharacters, short]
    exact notUnit
  · refine ⟨offset + 6, ?_⟩
    have named : Char.ofNat character.toNat = character := Char.ofNat_toNat character
    have single : isTrailing character.toNat = false ∧ isLeading character.toNat = false := by
      simp only [isTrailing, isLeading, Bool.and_eq_false_iff, decide_eq_false_iff_not]
      omega
    rw [written]
    simp [readCharacters, unitOf?_digitChar (show character.toNat < 256 by omega), single, named]
  · refine ⟨offset + character.utf8Size, ?_⟩
    rw [written, List.singleton_append, readCharacters, if_neg printable]
    · exact noQuote
    · exact fun backslash => absurd backslash noBackslash
    · exact fun _ backslash => absurd backslash noBackslash
    · exact fun _ _ backslash => absurd backslash noBackslash

/-- No character of an escape is a control character. -/
theorem printable_of_mem_escape {character part : Char} (member : part ∈ escape character) :
    0x20 ≤ part.toNat := by
  have digits : ∀ digit < 16, 0x20 ≤ (Nat.digitChar digit).toNat := by decide
  rcases escape_cases character with
    ⟨letter, written, printable, _⟩ | ⟨written, control⟩ | ⟨written, _, _, printable⟩
  · rw [written] at member
    simp only [List.mem_cons, List.not_mem_nil, or_false] at member
    rcases member with rfl | rfl
    · decide
    · exact printable
  · rw [written] at member
    simp only [List.mem_cons, List.not_mem_nil, or_false] at member
    rcases member with rfl | rfl | rfl | rfl | rfl | rfl
    · decide
    · decide
    · decide
    · decide
    · exact digits _ (by omega)
    · exact digits _ (by omega)
  · rw [written, List.mem_singleton] at member
    exact member ▸ Nat.not_lt.mp printable

theorem printable_of_mem_quote {text : List Char} {character : Char}
    (member : character ∈ quote text) : 0x20 ≤ character.toNat := by
  simp only [quote, List.cons_append, List.mem_cons, List.mem_append, List.mem_flatMap,
    List.not_mem_nil, or_false] at member
  rcases member with rfl | ⟨_, _, escaped⟩ | rfl
  · decide
  · exact printable_of_mem_escape escaped
  · decide

/-- A string reads back from behind its opening quote, whatever follows its closing one. -/
theorem reads_escaped (text rest : List Char) :
    Reads readString (text.flatMap escape ++ ['"']) (String.ofList text) rest := by
  have loop : ∀ done offset, ∃ after,
      readCharacters done (text.flatMap escape ++ ['"'] ++ rest) offset =
        .ok (String.ofList (done.reverse ++ text), ⟨rest, after⟩) := by
    induction text with
    | nil => exact fun done offset => ⟨offset + 1, by simp [readCharacters]⟩
    | cons character text inductionHypothesis =>
      intro done offset
      obtain ⟨next, step⟩ := readCharacters_escape character done
        (text.flatMap escape ++ ['"'] ++ rest) offset
      obtain ⟨after, done⟩ := inductionHypothesis (character :: done) next
      refine ⟨after, ?_⟩
      rw [List.flatMap_cons]
      simp only [List.append_assoc] at step done ⊢
      rw [step, done, List.reverse_cons, List.append_assoc, List.singleton_append]
  exact loop []

end JsonShape
