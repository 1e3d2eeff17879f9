/-
This file shows that the readers of tokens look at what they consume and at nothing
behind it, but for one character. A string ends at its closing quote, so whatever
follows, the same is read (`readString_consumes`). A number ends where the next character
cannot belong to it, so it reads the same in front of every text that begins with that
character (`readNumber_advances`). Between tokens blanks are skipped up to the next dark
character.
-/

import JsonShape.Proofs.RoundTrip

namespace JsonShape

/-! ### Blanks -/

/-- The blanks are skipped up to the character, which is none itself, whatever follows it. -/
structure Leads (blanks : List Char) (first : Char) : Prop where
  dark : Cursor.isSpace first = false
  skips : ∀ others offset, ∃ after,
    Cursor.skipSpaces ⟨blanks ++ first :: others, offset⟩ = ⟨first :: others, after⟩

theorem leads_nil {first : Char} (dark : Cursor.isSpace first = false) : Leads [] first :=
  ⟨dark, fun others offset => ⟨offset, skipSpaces_cons dark others offset⟩⟩

/-- Where the reading stands behind blanks, it would stand in front of any other text as well that
begins with the same character. -/
theorem exists_leads {text others : List Char} {first : Char} {offset after : Nat}
    (skipped : Cursor.skipSpaces ⟨text, offset⟩ = ⟨first :: others, after⟩) :
    ∃ blanks, text = blanks ++ first :: others ∧ Leads blanks first := by
  induction text generalizing offset with
  | nil => cases skipped
  | cons character text inductionHypothesis =>
    rw [Cursor.skipSpaces, Cursor.skipSpacesOf] at skipped
    by_cases space : Cursor.isSpace character = true
    · rw [if_pos space] at skipped
      obtain ⟨blanks, rfl, dark, skips⟩ := inductionHypothesis skipped
      refine ⟨character :: blanks, rfl, dark, fun others offset => ?_⟩
      rw [List.cons_append, Cursor.skipSpaces, Cursor.skipSpacesOf, if_pos space]
      exact skips others (offset + 1)
    · rw [if_neg space] at skipped
      obtain ⟨same, rfl⟩ := Cursor.mk.inj skipped
      obtain ⟨rfl, rfl⟩ := List.cons.inj same
      exact ⟨[], rfl, leads_nil (Bool.eq_false_iff.mpr space)⟩

theorem Cursor.skipSpaces_skipSpaces (cursor : Cursor) :
    cursor.skipSpaces.skipSpaces = cursor.skipSpaces := by
  cases skipped : cursor.skipSpaces with
  | mk rest after =>
    cases rest with
    | nil => rfl
    | cons first others =>
      obtain ⟨_, _, leads⟩ := exists_leads skipped
      exact skipSpaces_cons leads.dark others after

/-! ### Words and strings -/

theorem readWord_again (word other : List Char) (offset : Nat) :
    ∃ after, Cursor.readWord word ⟨word ++ other, offset⟩ = .ok ⟨other, after⟩ := by
  induction word generalizing offset with
  | nil => exact ⟨offset, rfl⟩
  | cons expected word inductionHypothesis =>
    simpa [Cursor.readWord] using inductionHypothesis (offset + 1)

theorem readWord_consumes {word text rest : List Char} {offset after : Nat}
    (read : Cursor.readWord word ⟨text, offset⟩ = .ok ⟨rest, after⟩) : text = word ++ rest := by
  induction word generalizing text offset with
  | nil => exact (Cursor.mk.inj (Except.ok.inj read)).1
  | cons expected word inductionHypothesis =>
    cases text with
    | nil => cases read
    | cons character text =>
      simp only [Cursor.readWord] at read
      split at read
      · rename_i same
        rw [same, inductionHypothesis read]
        rfl
      · cases read

/-- The characters of a string are read up to the closing quote, whatever follows it. -/
theorem readCharacters_consumes (done text : List Char) (offset : Nat) {content : String}
    {rest : List Char} {after : Nat}
    (read : readCharacters done text offset = .ok (content, ⟨rest, after⟩)) :
    ∃ consumed, text = consumed ++ rest ∧ ∀ other offset, ∃ after,
      readCharacters done (consumed ++ other) offset = .ok (content, ⟨other, after⟩) := by
  fun_induction readCharacters done text offset
  case case2 done text offset =>
    obtain ⟨rfl, same⟩ := Prod.mk.inj (Except.ok.inj read)
    obtain ⟨rfl, _⟩ := Cursor.mk.inj same
    exact ⟨['"'], rfl, fun other offset => ⟨offset + 1, by simp [readCharacters]⟩⟩
  case case7 offset first second third fourth unit named noTrailing leading fifth sixth seventh
      eighth text trailing namedTrailing isTrailing inductionHypothesis =>
    obtain ⟨consumed, rfl, again⟩ := inductionHypothesis read
    refine ⟨'\\' :: 'u' :: first :: second :: third :: fourth :: '\\' :: 'u' :: fifth :: sixth ::
      seventh :: eighth :: consumed, rfl, fun other offset => ?_⟩
    simpa [readCharacters, named, noTrailing, leading, namedTrailing, isTrailing] using
      again other (offset + 12)
  case case14 offset first second third fourth text unit named noTrailing noLeading
      inductionHypothesis =>
    obtain ⟨consumed, rfl, again⟩ := inductionHypothesis read
    refine ⟨'\\' :: 'u' :: first :: second :: third :: fourth :: consumed, rfl,
      fun other offset => ?_⟩
    simpa [readCharacters, named, noTrailing, noLeading] using again other (offset + 6)
  case case16 letter text offset noUnit character short inductionHypothesis =>
    obtain ⟨consumed, rfl, again⟩ := inductionHypothesis read
    refine ⟨'\\' :: letter :: consumed, rfl, fun other offset => ?_⟩
    simpa [readCharacters, noUnit, short] using again other (offset + 2)
  case case19 character text offset noQuote noEnd _ noEscape printable inductionHypothesis =>
    have noBackslash : character ≠ '\\' := by
      cases text with
      | nil => exact fun backslash => noEnd backslash rfl
      | cons letter text => exact fun backslash => noEscape letter text backslash rfl
    obtain ⟨consumed, rfl, again⟩ := inductionHypothesis read
    refine ⟨character :: consumed, rfl, fun other offset => ?_⟩
    simpa [readCharacters, noQuote, noBackslash, printable] using
      again other (offset + character.utf8Size)
  all_goals cases read

theorem readString_consumes {text rest : List Char} {offset after : Nat} {content : String}
    (read : readString ⟨text, offset⟩ = .ok (content, ⟨rest, after⟩)) :
    ∃ consumed, text = consumed ++ rest ∧ ∀ other, Reads readString consumed content other :=
  readCharacters_consumes [] text offset read

/-! ### Digits -/

theorem head?_append_congr {first second : List Char} (same : first.head? = second.head?)
    (text : List Char) : (text ++ first).head? = (text ++ second).head? := by
  cases text with
  | nil => exact same
  | cons character text => rfl

theorem startsWithDigit_congr {first second : List Char} (same : first.head? = second.head?) :
    startsWithDigit first = startsWithDigit second := by
  cases first <;> cases second <;> simp_all [startsWithDigit]

theorem startsWithDigit_eq (text : List Char) :
    startsWithDigit text = !decide (countDigits text = 0) := by
  cases text with
  | nil => rfl
  | cons character text =>
    cases digit : character.isDigit <;> simp [startsWithDigit, countDigits, digit]

/-- A text begins with digits up to a character that is none. -/
theorem exists_digits (text : List Char) :
    ∃ digits rest, text = digits ++ rest ∧ (∀ character ∈ digits, character.isDigit = true) ∧
      startsWithDigit rest = false := by
  induction text with
  | nil => exact ⟨[], [], rfl, List.forall_mem_nil _, rfl⟩
  | cons character text inductionHypothesis =>
    cases digit : character.isDigit with
    | false => exact ⟨[], character :: text, rfl, List.forall_mem_nil _, digit⟩
    | true =>
      obtain ⟨digits, rest, rfl, each, ends⟩ := inductionHypothesis
      exact ⟨character :: digits, rest, rfl, List.forall_mem_cons.mpr ⟨digit, each⟩, ends⟩

/-- As many of the digits are appended as fit, and the others are left in front of what follows. The
character that follows makes no difference, as long as it is no digit. -/
structure Scan (limit value : Nat) (digits : List Char) (result taken left : Nat) : Prop where
  length : digits.length = taken + left
  append : ∀ rest, startsWithDigit rest = false →
    appendDigits limit value (digits ++ rest) = ⟨result, taken, digits.drop taken ++ rest⟩
  count : ∀ rest, startsWithDigit rest = false → countDigits (digits.drop taken ++ rest) = left

theorem countDigits_append {digits rest : List Char}
    (each : ∀ character ∈ digits, character.isDigit = true) (ends : startsWithDigit rest = false) :
    countDigits (digits ++ rest) = digits.length := by
  have stops : rest.takeWhile Char.isDigit = [] := by
    cases rest with
    | nil => rfl
    | cons character rest =>
      have other : character.isDigit = false := ends
      rw [List.takeWhile_cons, other]
      rfl
  rw [countDigits, List.takeWhile_append_of_pos each, stops, List.append_nil]

theorem exists_scan (limit value : Nat) {digits : List Char}
    (each : ∀ character ∈ digits, character.isDigit = true) :
    ∃ result taken left, Scan limit value digits result taken left := by
  induction digits generalizing value with
  | nil =>
    refine ⟨value, 0, 0, rfl, fun rest ends => ?_, fun rest ends => ?_⟩
    · cases rest with
      | nil => rfl
      | cons character rest =>
        have other : character.isDigit = false := ends
        simp [appendDigits, other]
    · exact countDigits_append each ends
  | cons character digits inductionHypothesis =>
    obtain ⟨digit, others⟩ := List.forall_mem_cons.mp each
    by_cases fits : value * 10 + digitValue character < limit
    · obtain ⟨result, taken, left, length, append, count⟩ :=
        inductionHypothesis (value * 10 + digitValue character) others
      refine ⟨result, taken + 1, left, ?_, fun rest ends => ?_, count⟩
      · rw [List.length_cons, length]
        omega
      · rw [List.cons_append, appendDigits, if_pos ⟨digit, fits⟩, append rest ends]
        rfl
    · refine ⟨value, 0, digits.length + 1, (Nat.zero_add _).symm, fun rest _ => ?_,
        fun rest ends => countDigits_append each ends⟩
      rw [List.cons_append, appendDigits, if_neg fun both => fits both.2]
      rfl

theorem Scan.drop {limit value result taken left : Nat} {digits : List Char}
    (scan : Scan limit value digits result taken left) (rest : List Char) :
    (digits ++ rest).drop (taken + left) = rest := by
  rw [← scan.length, List.drop_left]

theorem Scan.startsWithDigit_drop {limit value result taken left : Nat} {digits rest : List Char}
    (scan : Scan limit value digits result taken left) (ends : startsWithDigit rest = false) :
    startsWithDigit (digits.drop taken ++ rest) = !decide (left = 0) := by
  rw [← scan.count rest ends, startsWithDigit_eq]

/-! ### The parts of a number -/

/-- The reader reads the same, and stops at the same place, in front of every text that begins like
the one it has stopped at. -/
def Settles {Content : Type} (read : Reader Content) : Prop :=
  ∀ ⦃text offset content rest after⦄, read ⟨text, offset⟩ = .ok (content, ⟨rest, after⟩) →
    ∃ consumed, text = consumed ++ rest ∧
      ∀ other, other.head? = rest.head? → Reads read consumed content other

/-- The reader settles and has read at least one character. -/
def Advances {Content : Type} (read : Reader Content) : Prop :=
  ∀ ⦃text offset content rest after⦄, read ⟨text, offset⟩ = .ok (content, ⟨rest, after⟩) →
    ∃ consumed, text = consumed ++ rest ∧ consumed ≠ [] ∧
      ∀ other, other.head? = rest.head? → Reads read consumed content other

theorem readWhole_consumes {text rest : List Char} {offset after significand dropped : Nat}
    (read : readWhole ⟨text, offset⟩ = .ok (significand, dropped, ⟨rest, after⟩)) :
    ∃ consumed, text = consumed ++ rest ∧ consumed ≠ [] ∧
      ∀ other, other.head? = rest.head? → ∀ offset, ∃ after,
        readWhole ⟨consumed ++ other, offset⟩ = .ok (significand, dropped, ⟨other, after⟩) := by
  cases text with
  | nil => cases read
  | cons first text =>
    by_cases zero : first = '0'
    · subst zero
      simp only [readWhole, Cursor.skip, List.drop_succ_cons, List.drop_zero] at read
      split at read
      · cases read
      · rename_i alone
        simp only [Except.ok.injEq, Prod.mk.injEq, Cursor.mk.injEq] at read
        obtain ⟨rfl, rfl, rfl, _⟩ := read
        refine ⟨['0'], rfl, List.cons_ne_nil _ _, fun other same offset => ⟨offset + 1, ?_⟩⟩
        simp [readWhole, startsWithDigit_congr same, alone, Cursor.skip]
    · cases digit : first.isDigit with
      | false => simp [readWhole, digit] at read
      | true =>
        obtain ⟨digits, others, rfl, each, ends⟩ := exists_digits text
        obtain ⟨result, taken, left, scan⟩ :=
          exists_scan significandLimit 0 (List.forall_mem_cons.mpr ⟨digit, each⟩)
        have reads : ∀ rest, startsWithDigit rest = false → ∀ offset,
            readWhole ⟨first :: digits ++ rest, offset⟩ =
              .ok (result, left, ⟨rest, offset + (taken + left)⟩) := by
          intro rest ends offset
          have drop := scan.drop rest
          have append := scan.append rest ends
          rw [List.cons_append] at drop append ⊢
          simp [readWhole, digit, append, scan.count rest ends, Cursor.skip, drop]
        rw [← List.cons_append, reads others ends] at read
        simp only [Except.ok.injEq, Prod.mk.injEq, Cursor.mk.injEq] at read
        obtain ⟨rfl, rfl, rfl, _⟩ := read
        refine ⟨first :: digits, rfl, List.cons_ne_nil _ _, fun other same offset => ?_⟩
        exact ⟨_, reads other ((startsWithDigit_congr same).trans ends) offset⟩

theorem readFraction_consumes {text rest : List Char} {offset after value significand taken : Nat}
    (read : readFraction value ⟨text, offset⟩ = .ok (significand, taken, ⟨rest, after⟩)) :
    ∃ consumed, text = consumed ++ rest ∧
      ∀ other, other.head? = rest.head? → ∀ offset, ∃ after,
        readFraction value ⟨consumed ++ other, offset⟩ =
          .ok (significand, taken, ⟨other, after⟩) := by
  cases digit : startsWithDigit text with
  | false =>
    simp only [readFraction, digit, Bool.false_eq_true, if_false] at read
    split at read <;> cases read
  | true =>
    obtain ⟨digits, others, rfl, each, ends⟩ := exists_digits text
    obtain ⟨result, taken, left, scan⟩ := exists_scan significandLimit value each
    have starts : ∀ rest, startsWithDigit (digits ++ rest) = true := by
      cases digits with
      | nil => exact absurd digit (by simp [ends])
      | cons first digits => exact fun _ => digit
    have reads : ∀ rest, startsWithDigit rest = false → ∀ offset,
        readFraction value ⟨digits ++ rest, offset⟩ =
          .ok (result, taken, ⟨rest, offset + (taken + left)⟩) := by
      intro rest ends offset
      simp [readFraction, starts, scan.append rest ends, scan.count rest ends, Cursor.skip,
        scan.drop rest]
    rw [reads others ends] at read
    simp only [Except.ok.injEq, Prod.mk.injEq, Cursor.mk.injEq] at read
    obtain ⟨rfl, rfl, rfl, _⟩ := read
    refine ⟨digits, rfl, fun other same offset => ?_⟩
    exact ⟨_, reads other ((startsWithDigit_congr same).trans ends) offset⟩

/-- What makes a number out of its parts leaves the text alone. -/
def Finishes (finish : Reader Number) : Prop :=
  ∀ {cursor number rest}, finish cursor = .ok (number, rest) →
    rest = cursor ∧ ∀ other, finish other = .ok (number, other)

theorem floatOf_finishes (negative : Bool) (significand : Nat) (exponent : Int) :
    Finishes (floatOf negative significand exponent) := by
  -- The function is unfolded as a whole, so that nothing evaluates the power of ten.
  revert negative significand exponent
  show (fun float : Bool → Nat → Int → Reader Number =>
    ∀ negative significand exponent, Finishes (float negative significand exponent)) floatOf
  delta floatOf
  intro negative significand exponent
  dsimp only
  generalize Binary64.ofDecimal? significand exponent = magnitude
  intro cursor number rest done
  cases magnitude with
  | none => cases done
  | some magnitude =>
    simp only [Except.ok.injEq, Prod.mk.injEq] at done
    obtain ⟨rfl, rfl⟩ := done
    exact ⟨rfl, fun other => rfl⟩

theorem integerOf_finishes (negative : Bool) (magnitude : Nat) :
    Finishes (integerOf negative magnitude) := by
  intro cursor number rest done
  unfold integerOf at *
  split at done
  · rename_i zero
    simp only [Except.ok.injEq, Prod.mk.injEq] at done
    obtain ⟨rfl, rfl⟩ := done
    exact ⟨rfl, fun other => if_pos zero⟩
  · rename_i notZero
    simp only [if_neg notZero]
    split at done
    · simp only [Except.ok.injEq, Prod.mk.injEq] at done
      obtain ⟨rfl, rfl⟩ := done
      exact ⟨rfl, fun other => rfl⟩
    · exact floatOf_finishes negative magnitude 0 done

/-- The digits of an exponent whose sign is known, and the float that they complete. -/
def readPower (negative : Bool) (significand : Nat) (exponent : Int) (minus : Bool) :
    Reader Number := fun cursor =>
  match cursor.rest with
  | [] => .error (cursor.errorHere .endInValue)
  | character :: _ =>
      if character.isDigit then
        let run := appendDigits exponentLimit 0 cursor.rest
        let cursor := cursor.skip run.count
        if startsWithDigit run.rest then
          if significand ≠ 0 ∧ !minus then
            .error ((cursor.skip 1).errorHere .numberOutOfRange)
          else .ok (.float (.zero negative), cursor.skip (countDigits run.rest))
        else
          let written : Int := if minus then -run.value else run.value
          floatOf negative significand (exponent + written) cursor
      else .error ((cursor.skip 1).errorHere .invalidNumber)

section Exponent

variable {negative : Bool} {significand : Nat} {exponent : Int}

theorem readExponent_digit {first : Char} (noPlus : first ≠ '+') (noMinus : first ≠ '-')
    (rest : List Char) (offset : Nat) :
    readExponent negative significand exponent ⟨first :: rest, offset⟩ =
      readPower negative significand exponent false ⟨first :: rest, offset⟩ := by
  unfold readExponent readPower
  simp only [List.cons.injEq, noPlus, noMinus, false_and, imp_self, implies_true]

section Scanned

variable {minus : Bool} {first : Char} {digits : List Char} {result taken left : Nat}
  (digit : first.isDigit = true) {rest : List Char} (ends : startsWithDigit rest = false)

include digit ends

/-- If all digits of an exponent fit, it is the power of ten. -/
theorem readPower_all (scan : Scan exponentLimit 0 (first :: digits) result taken 0)
    (offset : Nat) :
    readPower negative significand exponent minus ⟨first :: digits ++ rest, offset⟩ =
      floatOf negative significand (exponent + if minus then -(result : Int) else result)
        ⟨rest, offset + taken⟩ := by
  have dropped := scan.drop rest
  have appended := scan.append rest ends
  have started := scan.startsWithDigit_drop ends
  rw [Nat.add_zero] at dropped
  rw [List.cons_append] at dropped appended ⊢
  simp only [readPower, digit, if_true, appended, started, Cursor.skip, dropped]
  simp

/-- An exponent with digits that do not fit makes nothing but zeros and errors. -/
theorem readPower_part (scan : Scan exponentLimit 0 (first :: digits) result taken left)
    (leftOver : left ≠ 0) (offset : Nat) :
    readPower negative significand exponent minus ⟨first :: digits ++ rest, offset⟩ =
      if significand ≠ 0 ∧ !minus then
        .error ((Cursor.skip ⟨(first :: digits).drop taken ++ rest, offset + taken⟩
          1).errorHere .numberOutOfRange)
      else .ok (.float (.zero negative), ⟨rest, offset + taken + left⟩) := by
  have dropped := scan.drop rest
  have appended := scan.append rest ends
  have started := scan.startsWithDigit_drop ends
  have front : (first :: digits ++ rest).drop taken = (first :: digits).drop taken ++ rest :=
    List.drop_append_of_le_length (scan.length ▸ Nat.le_add_right taken left)
  rw [decide_eq_false leftOver] at started
  rw [← List.drop_drop, front] at dropped
  rw [List.cons_append] at appended front ⊢
  simp only [readPower, digit, if_true, appended, started, Cursor.skip, front,
    scan.count rest ends, dropped]
  simp

end Scanned

theorem readPower_settles (minus : Bool) :
    Settles (readPower negative significand exponent minus) := by
  intro text offset number rest after read
  cases text with
  | nil => cases read
  | cons first text =>
    cases digit : first.isDigit with
    | false => simp [readPower, digit] at read
    | true =>
      obtain ⟨digits, others, rfl, each, ends⟩ := exists_digits text
      obtain ⟨result, taken, left, scan⟩ :=
        exists_scan exponentLimit 0 (List.forall_mem_cons.mpr ⟨digit, each⟩)
      rw [← List.cons_append] at read
      by_cases all : left = 0
      · subst all
        rw [readPower_all digit ends scan] at read
        obtain ⟨same, again⟩ := floatOf_finishes _ _ _ read
        obtain ⟨rfl, _⟩ := Cursor.mk.inj same
        refine ⟨first :: digits, rfl, fun other same offset => ⟨offset + taken, ?_⟩⟩
        rw [readPower_all digit ((startsWithDigit_congr same).trans ends) scan]
        exact again _
      · rw [readPower_part digit ends scan all] at read
        split at read
        · cases read
        · rename_i small
          simp only [Except.ok.injEq, Prod.mk.injEq, Cursor.mk.injEq] at read
          obtain ⟨rfl, rfl, _⟩ := read
          refine ⟨first :: digits, rfl, fun other same offset => ⟨offset + taken + left, ?_⟩⟩
          rw [readPower_part digit ((startsWithDigit_congr same).trans ends) scan all,
            if_neg small]

theorem readExponent_settles : Settles (readExponent negative significand exponent) := by
  intro text offset number rest after read
  cases text with
  | nil => cases read
  | cons first text =>
    by_cases plus : first = '+'
    · subst plus
      obtain ⟨consumed, rfl, again⟩ := readPower_settles false read
      exact ⟨'+' :: consumed, rfl, fun other same offset => again other same (offset + 1)⟩
    · by_cases minus : first = '-'
      · subst minus
        obtain ⟨consumed, rfl, again⟩ := readPower_settles true read
        exact ⟨'-' :: consumed, rfl, fun other same offset => again other same (offset + 1)⟩
      · rw [readExponent_digit plus minus] at read
        obtain ⟨consumed, split, again⟩ := readPower_settles false read
        refine ⟨consumed, split, fun other same offset => ?_⟩
        obtain ⟨after, reads⟩ := again other same offset
        have front : (consumed ++ other).head? = some first :=
          (head?_append_congr same consumed).trans (split ▸ rfl)
        obtain ⟨others, written⟩ := List.head?_eq_some_iff.mp front
        rw [written] at reads ⊢
        exact ⟨after, (readExponent_digit plus minus others offset).trans reads⟩

end Exponent

/-! ### Numbers -/

/-- A number whose digits have been read: an exponent completes it, or it is done. -/
def readPowered (negative : Bool) (significand : Nat) (exponent : Int) (done : Reader Number) :
    Reader Number := fun cursor =>
  match cursor.rest with
  | 'e' :: _ => readExponent negative significand exponent (cursor.skip 1)
  | 'E' :: _ => readExponent negative significand exponent (cursor.skip 1)
  | _ => done cursor

section Powered

variable {negative : Bool} {significand : Nat} {exponent : Int} {done : Reader Number}

theorem readPowered_done {text : List Char} (small : text.head? ≠ some 'e')
    (capital : text.head? ≠ some 'E') (offset : Nat) :
    readPowered negative significand exponent done ⟨text, offset⟩ = done ⟨text, offset⟩ := by
  unfold readPowered
  split
  · exact absurd (by simp_all) small
  · exact absurd (by simp_all) capital
  · rfl

theorem readPowered_settles (finishes : Finishes done) :
    Settles (readPowered negative significand exponent done) := by
  intro text offset number rest after read
  by_cases small : text.head? = some 'e'
  · obtain ⟨others, rfl⟩ := List.head?_eq_some_iff.mp small
    obtain ⟨consumed, rfl, again⟩ := readExponent_settles read
    exact ⟨'e' :: consumed, rfl, fun other same offset => again other same (offset + 1)⟩
  · by_cases capital : text.head? = some 'E'
    · obtain ⟨others, rfl⟩ := List.head?_eq_some_iff.mp capital
      obtain ⟨consumed, rfl, again⟩ := readExponent_settles read
      exact ⟨'E' :: consumed, rfl, fun other same offset => again other same (offset + 1)⟩
    · rw [readPowered_done small capital] at read
      obtain ⟨here, again⟩ := finishes read
      obtain ⟨rfl, _⟩ := Cursor.mk.inj here
      refine ⟨[], rfl, fun other same offset => ⟨offset, ?_⟩⟩
      rw [List.nil_append, readPowered_done (same ▸ small) (same ▸ capital)]
      exact again _

end Powered

/-- The number of a whole part that nothing follows. -/
def wholeOf (negative : Bool) (significand dropped : Nat) : Reader Number := fun cursor =>
  if dropped = 0 then integerOf negative significand cursor
  else floatOf negative significand dropped cursor

theorem wholeOf_finishes (negative : Bool) (significand dropped : Nat) :
    Finishes (wholeOf negative significand dropped) := by
  unfold wholeOf
  by_cases whole : dropped = 0
  · simp only [whole, if_true]
    exact integerOf_finishes negative significand
  · simp only [whole, if_false]
    exact floatOf_finishes negative significand dropped

section AfterWhole

variable {negative : Bool} {significand dropped : Nat}

theorem readAfterWhole_point (rest : List Char) (offset : Nat) :
    readAfterWhole negative significand dropped ⟨'.' :: rest, offset⟩ =
      (readFraction significand ⟨rest, offset + 1⟩).bind fun (significand, taken, cursor) =>
        readPowered negative significand (dropped - taken)
          (floatOf negative significand (dropped - taken)) cursor := rfl

theorem readAfterWhole_other {text : List Char} (noPoint : text.head? ≠ some '.') (offset : Nat) :
    readAfterWhole negative significand dropped ⟨text, offset⟩ =
      readPowered negative significand dropped
        (wholeOf negative significand dropped) ⟨text, offset⟩ := by
  cases text with
  | nil => rfl
  | cons first text =>
    have different : first ≠ '.' := fun point => noPoint (congrArg some point)
    by_cases small : first = 'e'
    · subst small; rfl
    · by_cases capital : first = 'E'
      · subst capital; rfl
      · unfold readAfterWhole readPowered
        simp only [List.cons.injEq, different, small, capital, false_and, imp_self, implies_true]
        rfl

theorem readAfterWhole_settles : Settles (readAfterWhole negative significand dropped) := by
  intro text offset number rest after read
  by_cases point : text.head? = some '.'
  · obtain ⟨others, rfl⟩ := List.head?_eq_some_iff.mp point
    rw [readAfterWhole_point] at read
    cases fraction : readFraction significand ⟨others, offset + 1⟩ with
    | error error => rw [fraction] at read; cases read
    | ok found =>
      obtain ⟨value, taken, ⟨middle, start⟩⟩ := found
      rw [fraction] at read
      obtain ⟨power, rfl, again⟩ := readPowered_settles (floatOf_finishes _ _ _) read
      obtain ⟨digits, rfl, before⟩ := readFraction_consumes fraction
      refine ⟨'.' :: digits ++ power, by simp, fun other same offset => ?_⟩
      obtain ⟨start, readDigits⟩ :=
        before (power ++ other) (head?_append_congr same power) (offset + 1)
      obtain ⟨after, readOthers⟩ := again other same start
      refine ⟨after, ?_⟩
      rw [List.append_assoc, List.cons_append, readAfterWhole_point, readDigits]
      exact readOthers
  · rw [readAfterWhole_other point] at read
    obtain ⟨consumed, split, again⟩ := readPowered_settles (wholeOf_finishes _ _ _) read
    refine ⟨consumed, split, fun other same offset => ?_⟩
    have front : (consumed ++ other).head? ≠ some '.' := by
      rw [head?_append_congr same consumed, ← split]
      exact point
    rw [readAfterWhole_other front]
    exact again other same offset

end AfterWhole

/-- The number under a sign. -/
def readUnsigned (negative : Bool) : Reader Number := fun cursor =>
  (readWhole cursor).bind fun (significand, dropped, cursor) =>
    readAfterWhole negative significand dropped cursor

theorem readNumber_unsigned {text : List Char} (noMinus : text.head? ≠ some '-') (offset : Nat) :
    readNumber ⟨text, offset⟩ = readUnsigned false ⟨text, offset⟩ := by
  cases text with
  | nil => rfl
  | cons first text =>
    have different : first ≠ '-' := fun minus => noMinus (congrArg some minus)
    unfold readNumber readUnsigned
    simp only [List.cons.injEq, different, false_and, imp_self, implies_true]
    rfl

theorem readUnsigned_advances (negative : Bool) : Advances (readUnsigned negative) := by
  intro text offset number rest after read
  cases whole : readWhole ⟨text, offset⟩ with
  | error error => rw [readUnsigned, whole] at read; cases read
  | ok found =>
    obtain ⟨significand, dropped, ⟨middle, start⟩⟩ := found
    rw [readUnsigned, whole] at read
    obtain ⟨others, rfl, again⟩ := readAfterWhole_settles read
    obtain ⟨digits, rfl, nonempty, before⟩ := readWhole_consumes whole
    refine ⟨digits ++ others, (List.append_assoc ..).symm,
      List.append_ne_nil_of_left_ne_nil nonempty _, fun other same offset => ?_⟩
    obtain ⟨start, readDigits⟩ := before (others ++ other) (head?_append_congr same others) offset
    obtain ⟨after, readOthers⟩ := again other same start
    refine ⟨after, ?_⟩
    rw [List.append_assoc, readUnsigned, readDigits]
    exact readOthers

/-- A number ends in front of a character that cannot belong to it, so it is read the same in front
of every text that begins with that character. -/
theorem readNumber_advances : Advances readNumber := by
  intro text offset number rest after read
  by_cases minus : text.head? = some '-'
  · obtain ⟨others, rfl⟩ := List.head?_eq_some_iff.mp minus
    obtain ⟨consumed, rfl, _, again⟩ := readUnsigned_advances true read
    exact ⟨'-' :: consumed, rfl, List.cons_ne_nil _ _,
      fun other same offset => again other same (offset + 1)⟩
  · rw [readNumber_unsigned minus] at read
    obtain ⟨consumed, split, taken, again⟩ := readUnsigned_advances false read
    refine ⟨consumed, split, taken, fun other same offset => ?_⟩
    have front : (consumed ++ other).head? ≠ some '-' := by
      rw [head?_append_congr same consumed, ← split]
      exact minus
    rw [readNumber_unsigned front]
    exact again other same offset

end JsonShape
