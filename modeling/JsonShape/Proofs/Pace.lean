/-
This file shows that readers keep pace with one another. Two readers do so if, wherever
the first one succeeds, the second one succeeds as well and stops at the same place, and
both would do so again in front of any text that begins with the character they stopped
at (`Paced`). Loops over items and members keep pace if the readers of what they hold do
(`readItems_paced`, `readMembers_paced`), and so a value keeps pace with itself, by
induction on how deep it may be: where it ends is decided by what it is read from, and by
no more than one character of what follows (`readValue_paced`).
-/

import JsonShape.Proofs.Reading
import JsonShape.Proofs.Separators

namespace JsonShape

/-! ### Keeping pace -/

/-- Wherever the first reader succeeds, the second one does so too and stops at the same place. Both
would do so again in front of every text that begins like what they stopped at. -/
def Paced {First Second : Type} (first : Reader First) (second : Reader Second) : Prop :=
  ∀ ⦃text offset content rest after⦄, first ⟨text, offset⟩ = .ok (content, ⟨rest, after⟩) →
    ∃ consumed value, text = consumed ++ rest ∧ consumed ≠ [] ∧
      ∀ other, other.head? = rest.head? →
        Reads first consumed content other ∧ Reads second consumed value other

/-- The readers keep pace and stop behind a sign that ends what they read, so that anything may
follow. -/
def Sealed {First Second : Type} (first : Reader First) (second : Reader Second) : Prop :=
  ∀ ⦃text offset content rest after⦄, first ⟨text, offset⟩ = .ok (content, ⟨rest, after⟩) →
    ∃ consumed value, text = consumed ++ rest ∧ consumed ≠ [] ∧
      ∀ other, Reads first consumed content other ∧ Reads second consumed value other

theorem Sealed.paced {First Second : Type} {first : Reader First} {second : Reader Second}
    (sealed : Sealed first second) : Paced first second := by
  intro text offset content rest after read
  obtain ⟨consumed, value, split, nonempty, both⟩ := sealed read
  exact ⟨consumed, value, split, nonempty, fun other _ => both other⟩

section Loops

variable {Item Content Value : Type}

/-! ### Items -/

theorem readItems_end_of_leads {readItem : Reader Item} {blanks : List Char}
    (leads : Leads blanks ']') {limit : Nat} (enough : (blanks ++ [']']).length ≤ limit)
    (position : Nat) (other : List Char) :
    Reads (readItems readItem limit position) (blanks ++ [']']) [] other := by
  intro offset
  rw [List.length_append] at enough
  obtain ⟨limit, rfl⟩ := Nat.exists_eq_add_one_of_ne_zero (Nat.ne_zero_of_lt enough)
  obtain ⟨after, closed⟩ := closeArray_stepsOver.again leads other offset
  refine ⟨after, ?_⟩
  rw [List.append_assoc, List.singleton_append, readItems, leads.nextItem?_none]
  simp only [closed, bind, Except.bind, pure, Except.pure]

/-- An item behind what stands in front of it, and the items that follow. -/
theorem readItems_cons {readItem : Reader Item} {front first others : List Char} {item : Item}
    {items : List Item} {limit position : Nat} {other : List Char}
    (found : ∀ offset, ∃ after, nextItem? (position == 0)
      ⟨front ++ (first ++ (others ++ other)), offset⟩ =
        .ok (some ⟨first ++ (others ++ other), after⟩))
    (read : Reads readItem first item (others ++ other))
    (reads : Reads (readItems readItem limit (position + 1)) others items other) :
    Reads (readItems readItem (limit + 1) position) (front ++ (first ++ others)) (item :: items)
      other := by
  intro offset
  obtain ⟨start, found⟩ := found offset
  obtain ⟨next, read⟩ := read start
  obtain ⟨after, reads⟩ := reads next
  refine ⟨after, ?_⟩
  rw [List.append_assoc, List.append_assoc]
  exact readItems_next found read reads

/-- What stands in front of anything decides how it begins, if it is not empty. -/
theorem head?_append_eq {front : List Char} (nonempty : front ≠ []) (first second : List Char) :
    (front ++ first).head? = (front ++ second).head? := by
  cases front with
  | nil => exact absurd rfl nonempty
  | cons character front => rfl

/-- The loop over items keeps pace if the readers of the items do. -/
theorem readItems_paced {readItem : Reader Item} {readOther : Reader Value}
    (paced : Paced readItem readOther) {limit position : Nat} {text rest : List Char}
    {offset after : Nat} {items : List Item}
    (read : readItems readItem limit position ⟨text, offset⟩ = .ok (items, ⟨rest, after⟩)) :
    ∃ consumed values, text = consumed ++ rest ∧ consumed ≠ [] ∧
      ∀ limit, consumed.length ≤ limit → ∀ other,
        Reads (readItems readItem limit position) consumed items other ∧
          Reads (readItems readOther limit position) consumed values other := by
  -- The loop is followed through its own limit; the limit of the other runs is only bounded.
  induction limit generalizing position text offset items with
  | zero => cases read
  | succ limit inductionHypothesis =>
    simp only [readItems, bind_eq_ok_iff] at read
    obtain ⟨next, found, read⟩ := read
    cases next with
    | none =>
      simp only [bind_eq_ok_iff, pure_eq_ok_iff, Prod.mk.injEq] at read
      obtain ⟨_, closed, rfl, rfl⟩ := read
      obtain ⟨blanks, rfl, leads⟩ := closeArray_stepsOver.exists_leads closed
      refine ⟨blanks ++ [']'], [], by simp, by simp, fun limit enough other => ?_⟩
      exact ⟨readItems_end_of_leads leads enough position other,
        readItems_end_of_leads leads enough position other⟩
    | some start =>
      obtain ⟨start, begins⟩ := start
      cases readFirst : readItem ⟨start, begins⟩ with
      | error error => simp only [readFirst, reduceCtorEq] at read
      | ok pair =>
        obtain ⟨item, ⟨middle, next⟩⟩ := pair
        simp only [readFirst, bind_eq_ok_iff, pure_eq_ok_iff, Prod.mk.injEq] at read
        obtain ⟨⟨items, _⟩, readOthers, rfl, rfl⟩ := read
        obtain ⟨others, values, rfl, someOthers, bothOthers⟩ := inductionHypothesis readOthers
        obtain ⟨first, value, rfl, someFirst, bothFirst⟩ := paced readFirst
        obtain ⟨front, rfl, again⟩ := nextItem?_some found
        refine ⟨front ++ (first ++ others), value :: values, by simp, by simp [someFirst],
          fun limit enough other => ?_⟩
        have positive := List.length_pos_iff.mpr someFirst
        simp only [List.length_append] at enough
        obtain ⟨limit, rfl⟩ := Nat.exists_eq_add_one_of_ne_zero (show limit ≠ 0 by omega)
        -- The item is followed by the rest of the array, which begins the same whatever stands
        -- behind the array.
        have both := bothFirst _ (head?_append_eq someOthers other rest)
        have bothAfter := bothOthers limit (by omega) other
        have found := again _ (head?_append_eq someFirst (others ++ other) (others ++ rest))
        exact ⟨readItems_cons found both.1 bothAfter.1, readItems_cons found both.2 bothAfter.2⟩

/-- The limit of an array is no limit, as there are not more items than characters. -/
theorem reads_readArray {readItem : Reader Item} {text other : List Char} {items : List Item}
    (reads : ∀ limit, text.length ≤ limit → Reads (readItems readItem limit 0) text items other) :
    Reads (readArray readItem) text items other := by
  have enough : text.length ≤ (text ++ other).length + 1 := by
    rw [List.length_append]
    omega
  exact reads _ enough

theorem readArray_sealed {readItem : Reader Item} {readOther : Reader Value}
    (paced : Paced readItem readOther) : Sealed (readArray readItem) (readArray readOther) := by
  intro text offset items rest after read
  obtain ⟨consumed, values, rfl, nonempty, both⟩ := readItems_paced paced read
  exact ⟨consumed, values, rfl, nonempty, fun other =>
    ⟨reads_readArray fun limit enough => (both limit enough other).1,
      reads_readArray fun limit enough => (both limit enough other).2⟩⟩

/-! ### Members -/

theorem readMembers_end_of_leads {readContent : Reader Content} {blanks : List Char}
    (leads : Leads blanks '\x7d') {limit : Nat} (enough : (blanks ++ ['\x7d']).length ≤ limit)
    (first : Bool) (table : Table Content) (other : List Char) :
    Reads (readMembers readContent limit first table) (blanks ++ ['\x7d']) table other := by
  intro offset
  rw [List.length_append] at enough
  obtain ⟨limit, rfl⟩ := Nat.exists_eq_add_one_of_ne_zero (Nat.ne_zero_of_lt enough)
  obtain ⟨after, closed⟩ := closeObject_stepsOver.again leads other offset
  refine ⟨after, ?_⟩
  rw [List.append_assoc, List.singleton_append, readMembers, leads.nextKey?_none]
  simp only [closed, bind, Except.bind, pure, Except.pure]

/-- A member behind what stands in front of its content, and the members that follow. -/
theorem readMembers_cons {readContent : Reader Content} {front text others other : List Char}
    {key : String} {content : Content} {limit : Nat} {first : Bool} {table result : Table Content}
    (heads : Heads first front key) (read : Reads readContent text content (others ++ other))
    (reads : Reads (readMembers readContent limit false (Table.insert table key content)) others
      result other) :
    Reads (readMembers readContent (limit + 1) first table) (front ++ (text ++ others)) result
      other := by
  intro offset
  obtain ⟨middle, start, found, colon⟩ := heads (text ++ (others ++ other)) offset
  obtain ⟨next, read⟩ := read start
  obtain ⟨after, reads⟩ := reads next
  refine ⟨after, ?_⟩
  rw [List.append_assoc, List.append_assoc, readMembers, found]
  simp only [colon, read, reads, bind, Except.bind]

/-- The loop over members keeps pace if the readers of their contents do. -/
theorem readMembers_paced {readContent : Reader Content} {readOther : Reader Value}
    (paced : Paced readContent readOther) {limit : Nat} {first : Bool}
    {table result : Table Content} (values : Table Value) {text rest : List Char}
    {offset after : Nat}
    (read : readMembers readContent limit first table ⟨text, offset⟩ =
      .ok (result, ⟨rest, after⟩)) :
    ∃ consumed final, text = consumed ++ rest ∧ consumed ≠ [] ∧
      ∀ limit, consumed.length ≤ limit → ∀ other,
        Reads (readMembers readContent limit first table) consumed result other ∧
          Reads (readMembers readOther limit first values) consumed final other := by
  induction limit generalizing first table values text offset with
  | zero => cases read
  | succ limit inductionHypothesis =>
    rw [readMembers] at read
    split at read
    · cases read
    · simp only [bind_eq_ok_iff, pure_eq_ok_iff, Prod.mk.injEq] at read
      obtain ⟨_, closed, rfl, rfl⟩ := read
      obtain ⟨blanks, rfl, leads⟩ := closeObject_stepsOver.exists_leads closed
      refine ⟨blanks ++ ['\x7d'], values, by simp, by simp, fun limit enough other => ?_⟩
      exact ⟨readMembers_end_of_leads leads enough first table other,
        readMembers_end_of_leads leads enough first values other⟩
    · rename_i key middle found
      simp only [bind_eq_ok_iff] at read
      obtain ⟨⟨start, begins⟩, colon, read⟩ := read
      cases readFirst : readContent ⟨start, begins⟩ with
      | error error => simp only [readFirst, reduceCtorEq] at read
      | ok pair =>
        obtain ⟨content, ⟨middle, next⟩⟩ := pair
        simp only [readFirst] at read
        obtain ⟨text, value, rfl, _, bothFirst⟩ := paced readFirst
        obtain ⟨others, final, rfl, someOthers, bothOthers⟩ :=
          inductionHypothesis (Table.insert values key value) read
        obtain ⟨front, rfl, heads⟩ := exists_heads found colon
        refine ⟨front ++ (text ++ others), final, by simp, by simp [someOthers],
          fun limit enough other => ?_⟩
        have positive := heads.length_pos
        simp only [List.length_append] at enough
        obtain ⟨limit, rfl⟩ := Nat.exists_eq_add_one_of_ne_zero (show limit ≠ 0 by omega)
        have both := bothFirst _ (head?_append_eq someOthers other rest)
        have bothAfter := bothOthers limit (by omega) other
        exact ⟨readMembers_cons heads both.1 bothAfter.1,
          readMembers_cons heads both.2 bothAfter.2⟩

/-- The limit of an object is no limit, as there are not more members than characters. -/
theorem reads_readObject {readContent : Reader Content} {text other : List Char}
    {table : Table Content}
    (reads : ∀ limit, text.length ≤ limit →
      Reads (readMembers readContent limit true []) text table other) :
    Reads (readObject readContent) text table other := by
  have enough : text.length ≤ (text ++ other).length + 1 := by
    rw [List.length_append]
    omega
  exact reads _ enough

theorem readObject_sealed {readContent : Reader Content} {readOther : Reader Value}
    (paced : Paced readContent readOther) :
    Sealed (readObject readContent) (readObject readOther) := by
  intro text offset table rest after read
  obtain ⟨consumed, values, rfl, nonempty, both⟩ := readMembers_paced paced [] read
  exact ⟨consumed, values, rfl, nonempty, fun other =>
    ⟨reads_readObject fun limit enough => (both limit enough other).1,
      reads_readObject fun limit enough => (both limit enough other).2⟩⟩

end Loops

/-! ### Values -/

theorem readValueWith_skipSpaces (nested : Option (Reader Json)) (cursor : Cursor) :
    readValueWith nested cursor.skipSpaces = readValueWith nested cursor := by
  unfold readValueWith
  rw [Cursor.skipSpaces_skipSpaces]

/-- A reader that skips blanks reads behind blanks what it reads without them. -/
theorem Leads.reads {Content : Type} {read : Reader Content}
    (skips : ∀ cursor, read cursor.skipSpaces = read cursor) {blanks text other : List Char}
    {first : Char} (leads : Leads blanks first) {content : Content}
    (reads : Reads read (first :: text) content other) :
    Reads read (blanks ++ first :: text) content other := by
  intro offset
  obtain ⟨start, skipped⟩ := leads.skips (text ++ other) offset
  rw [List.append_assoc, List.cons_append, ← skips, skipped]
  exact reads start

/-- Readers that skip blanks keep pace if they do so where the next character is none. -/
theorem paced_of_dark {First Second : Type} {first : Reader First} {second : Reader Second}
    (skipsFirst : ∀ cursor, first cursor.skipSpaces = first cursor)
    (skipsSecond : ∀ cursor, second cursor.skipSpaces = second cursor)
    (ends : ∀ offset, ∃ error, first ⟨[], offset⟩ = .error error)
    (paced : ∀ {character text offset content rest after},
      Cursor.isSpace character = false →
      first ⟨character :: text, offset⟩ = .ok (content, ⟨rest, after⟩) →
      ∃ consumed value, text = consumed ++ rest ∧ ∀ other, other.head? = rest.head? →
        Reads first (character :: consumed) content other ∧
          Reads second (character :: consumed) value other) : Paced first second := by
  intro text offset content rest after read
  cases skipped : Cursor.skipSpaces ⟨text, offset⟩ with
  | mk dark start =>
    rw [← skipsFirst, skipped] at read
    cases dark with
    | nil =>
      obtain ⟨error, fails⟩ := ends start
      rw [fails] at read
      cases read
    | cons character others =>
      obtain ⟨blanks, rfl, leads⟩ := exists_leads skipped
      obtain ⟨consumed, value, rfl, both⟩ := paced leads.dark read
      refine ⟨blanks ++ character :: consumed, value, by simp, by simp, fun other same => ?_⟩
      obtain ⟨readFirst, readSecond⟩ := both other same
      exact ⟨leads.reads skipsFirst readFirst, leads.reads skipsSecond readSecond⟩

section Values

variable {nested : Option (Reader Json)} {readNested : Reader Json} {consumed other : List Char}

theorem reads_string {content : String} (read : Reads readString consumed content other) :
    Reads (readValueWith nested) ('"' :: consumed) (.string content) other := by
  intro offset
  obtain ⟨after, read⟩ := read (offset + 1)
  exact ⟨after, Json.readValueWith_string read⟩

theorem reads_array {items : List Json} (read : Reads (readArray readNested) consumed items other) :
    Reads (readValueWith (some readNested)) ('[' :: consumed) (.array items) other := by
  intro offset
  obtain ⟨after, read⟩ := read (offset + 1)
  exact ⟨after, Json.readValueWith_array read⟩

theorem reads_object {members : Table Json}
    (read : Reads (readObject readNested) consumed members other) :
    Reads (readValueWith (some readNested)) ('\x7b' :: consumed) (.object members) other := by
  intro offset
  obtain ⟨after, read⟩ := read (offset + 1)
  exact ⟨after, Json.readValueWith_object read⟩

theorem reads_number {first : Char} {number : Number} (form : first = '-' ∨ first.isDigit = true)
    (read : Reads readNumber (first :: consumed) number other) :
    Reads (readValueWith nested) (first :: consumed) (.number number) other := by
  intro offset
  obtain ⟨after, read⟩ := read offset
  refine ⟨after, ?_⟩
  rw [List.cons_append] at read ⊢
  rw [Json.readValueWith_number form, read]
  rfl

/-- A number is read from its first character on. -/
theorem consumes_number {first : Char} {text rest : List Char} {offset after : Nat}
    {number : Number} (read : readNumber ⟨first :: text, offset⟩ = .ok (number, ⟨rest, after⟩)) :
    ∃ consumed, text = consumed ++ rest ∧ ∀ other, other.head? = rest.head? →
      Reads readNumber (first :: consumed) number other := by
  obtain ⟨consumed, written, nonempty, again⟩ := readNumber_advances read
  cases consumed with
  | nil => exact absurd rfl nonempty
  | cons character consumed =>
    obtain ⟨rfl, rfl⟩ := List.cons.inj written
    exact ⟨consumed, rfl, again⟩

section Words

variable {Content : Type} {read : Reader Content} {first : Char} {word : List Char}
  {value : Content} (written : ∀ rest offset, read ⟨first :: rest, offset⟩ =
    do return (value, ← Cursor.readWord word ⟨rest, offset + 1⟩))

include written

theorem reads_word (other : List Char) : Reads read (first :: word) value other := by
  intro offset
  obtain ⟨after, letters⟩ := readWord_again word other (offset + 1)
  refine ⟨after, ?_⟩
  rw [List.cons_append, written, letters]
  rfl

/-- What is written as a word is read up to its last letter. -/
theorem consumes_word {text rest : List Char} {offset after : Nat} {content : Content}
    (done : read ⟨first :: text, offset⟩ = .ok (content, ⟨rest, after⟩)) :
    value = content ∧ text = word ++ rest := by
  rw [written] at done
  simp only [bind_eq_ok_iff, pure_eq_ok_iff, Prod.mk.injEq] at done
  obtain ⟨_, letters, same, rfl⟩ := done
  exact ⟨same, readWord_consumes letters⟩

end Words

/-- Values keep pace with themselves if those nested in them do. -/
theorem readValueWith_paced (paced : ∀ readNested, nested = some readNested →
    Paced readNested readNested) : Paced (readValueWith nested) (readValueWith nested) := by
  refine paced_of_dark (readValueWith_skipSpaces nested) (readValueWith_skipSpaces nested)
    (fun offset => ⟨_, rfl⟩) ?_
  intro character text offset value rest after dark read
  have consumes : ∃ consumed, text = consumed ++ rest ∧ ∀ other, other.head? = rest.head? →
      Reads (readValueWith nested) (character :: consumed) value other := by
    have parts := read
    unfold readValueWith at parts
    rw [skipSpaces_cons dark] at parts
    dsimp only at parts
    split at parts
    case h_1 written => cases written
    case h_2 written =>
      cases written
      obtain ⟨rfl, split⟩ := consumes_word (fun _ _ => rfl) read
      exact ⟨_, split, fun other _ => reads_word (fun _ _ => rfl) other⟩
    case h_3 written =>
      cases written
      obtain ⟨rfl, split⟩ := consumes_word (fun _ _ => rfl) read
      exact ⟨_, split, fun other _ => reads_word (fun _ _ => rfl) other⟩
    case h_4 written =>
      cases written
      obtain ⟨rfl, split⟩ := consumes_word (fun _ _ => rfl) read
      exact ⟨_, split, fun other _ => reads_word (fun _ _ => rfl) other⟩
    case h_5 written =>
      cases written
      simp only [bind_eq_ok_iff, pure_eq_ok_iff, Prod.mk.injEq] at parts
      obtain ⟨⟨content, _⟩, parts, rfl, rfl⟩ := parts
      obtain ⟨consumed, rfl, again⟩ := readString_consumes parts
      exact ⟨consumed, rfl, fun other _ => reads_string (again other)⟩
    case h_6 written =>
      cases written
      cases nested with
      | none => cases parts
      | some readNested =>
        simp only [bind_eq_ok_iff, pure_eq_ok_iff, Prod.mk.injEq] at parts
        obtain ⟨⟨items, _⟩, parts, rfl, rfl⟩ := parts
        obtain ⟨consumed, _, rfl, _, both⟩ := readArray_sealed (paced readNested rfl) parts
        exact ⟨consumed, rfl, fun other _ => reads_array (both other).1⟩
    case h_7 written =>
      cases written
      cases nested with
      | none => cases parts
      | some readNested =>
        simp only [bind_eq_ok_iff, pure_eq_ok_iff, Prod.mk.injEq] at parts
        obtain ⟨⟨members, _⟩, parts, rfl, rfl⟩ := parts
        obtain ⟨consumed, _, rfl, _, both⟩ := readObject_sealed (paced readNested rfl) parts
        exact ⟨consumed, rfl, fun other _ => reads_object (both other).1⟩
    case h_8 written =>
      cases written
      split at parts
      · rename_i form
        simp only [bind_eq_ok_iff, pure_eq_ok_iff, Prod.mk.injEq] at parts
        obtain ⟨⟨number, _⟩, parts, rfl, rfl⟩ := parts
        obtain ⟨consumed, rfl, again⟩ := consumes_number parts
        exact ⟨consumed, rfl, fun other same => reads_number form (again other same)⟩
      · cases parts
  obtain ⟨consumed, written, reads⟩ := consumes
  exact ⟨consumed, value, written, fun other same => ⟨reads other same, reads other same⟩⟩

/-- Where a value ends is decided by what it is read from and the character behind it. -/
theorem readValue_paced (levels : Nat) : Paced (readValue levels) (readValue levels) := by
  induction levels with
  | zero =>
    show Paced (readValueWith none) (readValueWith none)
    exact readValueWith_paced fun readNested equal =>
      absurd equal.symm (Option.some_ne_none readNested)
  | succ levels inductionHypothesis =>
    refine readValueWith_paced fun readNested equal => ?_
    rw [← Option.some.inj equal]
    exact inductionHypothesis

end Values

end JsonShape
