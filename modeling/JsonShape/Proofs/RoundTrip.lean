/-
This file shows that values read back from their compact texts. A compact text has no
blanks between its tokens, so the reader meets each item directly behind the bracket or
comma in front of it and each member behind the brace or comma. The loops over items and
members are followed for any reader that reads the texts of single items back
(`readArray_partsText`, `readObject_partsText`); nesting is then an induction over the
value, with one level for each array or object (`reads_compact`). Members keep their
places because the names differ, so that each is new when it is read.
-/

import JsonShape.Proofs.Reading
import JsonShape.Proofs.Scalars

namespace JsonShape

/-! ### Depth and numbers of values -/

namespace Json

mutual

/-- How many arrays and objects stand one inside the other. -/
def depth : Json → Nat
  | array items => depthOfItems items + 1
  | object members => depthOfMembers members + 1
  | _ => 0

/-- The greatest depth of an item. -/
def depthOfItems : List Json → Nat
  | [] => 0
  | item :: items => max item.depth (depthOfItems items)

/-- The greatest depth of the value of a member. -/
def depthOfMembers : List (String × Json) → Nat
  | [] => 0
  | (_, value) :: members => max value.depth (depthOfMembers members)

end

mutual

/-- Whether every number in the value is an integer. -/
def floatless : Json → Bool
  | number (.float _) => false
  | array items => floatlessItems items
  | object members => floatlessMembers members
  | _ => true

/-- Whether every number in the items is an integer. -/
def floatlessItems : List Json → Bool
  | [] => true
  | item :: items => item.floatless && floatlessItems items

/-- Whether every number in the values of the members is an integer. -/
def floatlessMembers : List (String × Json) → Bool
  | [] => true
  | (_, value) :: members => value.floatless && floatlessMembers members

end

theorem depthOfItems_le_iff {items : List Json} {levels : Nat} :
    depthOfItems items ≤ levels ↔ ∀ item ∈ items, item.depth ≤ levels := by
  induction items with
  | nil => simp [depthOfItems]
  | cons item items inductionHypothesis =>
    rw [depthOfItems, Nat.max_le, inductionHypothesis, List.forall_mem_cons]

theorem depthOfMembers_le_iff {members : List (String × Json)} {levels : Nat} :
    depthOfMembers members ≤ levels ↔ ∀ member ∈ members, member.2.depth ≤ levels := by
  induction members with
  | nil => simp [depthOfMembers]
  | cons member members inductionHypothesis =>
    rw [depthOfMembers, Nat.max_le, inductionHypothesis, List.forall_mem_cons]

theorem floatlessItems_iff {items : List Json} :
    floatlessItems items = true ↔ ∀ item ∈ items, item.floatless = true := by
  induction items with
  | nil => simp [floatlessItems]
  | cons item items inductionHypothesis =>
    rw [floatlessItems, Bool.and_eq_true, inductionHypothesis, List.forall_mem_cons]

theorem floatlessMembers_iff {members : List (String × Json)} :
    floatlessMembers members = true ↔ ∀ member ∈ members, member.2.floatless = true := by
  induction members with
  | nil => simp [floatlessMembers]
  | cons member members inductionHypothesis =>
    rw [floatlessMembers, Bool.and_eq_true, inductionHypothesis, List.forall_mem_cons]

end Json

/-! ### The beginning of a text -/

/-- A text begins with something that is neither blank nor the end of an array. -/
def Begins (text : List Char) : Prop :=
  ∃ first others, text = first :: others ∧ isBlank first = false ∧ first ≠ ']'

theorem isSpace_eq_false {character : Char} (dark : isBlank character = false) :
    Cursor.isSpace character = false := by
  simp only [Cursor.isSpace, Bool.or_eq_false_iff, beq_eq_false_iff_ne]
  refine ⟨⟨⟨?_, ?_⟩, ?_⟩, ?_⟩ <;> rintro rfl <;> cases dark

theorem skipSpaces_cons {first : Char} (dark : Cursor.isSpace first = false) (rest : List Char)
    (offset : Nat) : Cursor.skipSpaces ⟨first :: rest, offset⟩ = ⟨first :: rest, offset⟩ := by
  rw [Cursor.skipSpaces, Cursor.skipSpacesOf, if_neg (Bool.eq_false_iff.mp dark)]

theorem Begins.skipSpaces {text : List Char} (begins : Begins text) (rest : List Char)
    (offset : Nat) : Cursor.skipSpaces ⟨text ++ rest, offset⟩ = ⟨text ++ rest, offset⟩ := by
  obtain ⟨first, others, rfl, dark, _⟩ := begins
  exact skipSpaces_cons (isSpace_eq_false dark) _ _

/-! ### Parts between commas -/

section Parts

variable {Part : Type} {text : Part → List Char} {close : Char}

/-- The texts of the parts after the first one, each behind a comma, and the closing sign. -/
def tailText (text : Part → List Char) (close : Char) : List Part → List Char
  | [] => [close]
  | part :: parts => ',' :: (text part ++ tailText text close parts)

/-- The texts of parts with commas between them, and the closing sign. -/
def partsText (text : Part → List Char) (close : Char) : List Part → List Char
  | [] => [close]
  | part :: parts => text part ++ tailText text close parts

theorem follows_tailText {rest : List Char} (closes : Follows (close :: rest))
    (parts : List Part) : Follows (tailText text close parts ++ rest) := by
  cases parts with
  | nil => exact closes
  | cons part parts => exact .comma _

theorem length_lt_tailText (text : Part → List Char) (close : Char) (parts : List Part) :
    parts.length < (tailText text close parts).length := by
  induction parts with
  | nil => exact Nat.one_pos
  | cons part parts inductionHypothesis =>
    rw [tailText, List.length_cons, List.length_cons, List.length_append]
    omega

/-- What holds of the comma, of the closing sign and of the texts of the parts holds of every
character. -/
theorem forall_mem_tailText {Property : Char → Prop} {parts : List Part} (comma : Property ',')
    (closing : Property close)
    (each : ∀ part ∈ parts, ∀ character ∈ text part, Property character) :
    ∀ character ∈ tailText text close parts, Property character := by
  induction parts with
  | nil => exact List.forall_mem_singleton.mpr closing
  | cons part parts inductionHypothesis =>
    obtain ⟨first, others⟩ := List.forall_mem_cons.mp each
    exact List.forall_mem_cons.mpr
      ⟨comma, List.forall_mem_append.mpr ⟨first, inductionHypothesis others⟩⟩

theorem forall_mem_partsText {Property : Char → Prop} {parts : List Part} (comma : Property ',')
    (closing : Property close)
    (each : ∀ part ∈ parts, ∀ character ∈ text part, Property character) :
    ∀ character ∈ partsText text close parts, Property character := by
  cases parts with
  | nil => exact List.forall_mem_singleton.mpr closing
  | cons part parts =>
    obtain ⟨first, others⟩ := List.forall_mem_cons.mp each
    exact List.forall_mem_append.mpr ⟨first, forall_mem_tailText comma closing others⟩

end Parts

/-! ### Items -/

section Items

variable {Item : Type} {readItem : Reader Item} {text : Item → List Char}

theorem nextItem?_first {first : List Char} (begins : Begins first) (rest : List Char)
    (offset : Nat) :
    nextItem? true ⟨first ++ rest, offset⟩ = .ok (some ⟨first ++ rest, offset⟩) := by
  have stays := begins.skipSpaces rest offset
  obtain ⟨character, others, rfl, _, noEnd⟩ := begins
  rw [nextItem?, stays]
  simp

theorem nextItem?_comma {next : List Char} (begins : Begins next) (rest : List Char)
    (offset : Nat) :
    nextItem? false ⟨',' :: (next ++ rest), offset⟩ = .ok (some ⟨next ++ rest, offset + 1⟩) := by
  have stays := begins.skipSpaces rest (offset + 1)
  obtain ⟨character, others, rfl, _, noEnd⟩ := begins
  rw [List.cons_append] at stays ⊢
  rw [nextItem?, skipSpaces_cons (by decide)]
  simp only [Char.reduceEq, imp_self, Bool.false_eq_true, if_false, if_true, Cursor.skip,
    List.drop_succ_cons, List.drop_zero, stays]
  -- Behind the comma only the end of the array would be an error.
  split
  case h_1 empty => cases empty
  case h_2 ended => exact absurd (List.cons.inj ended).1 noEnd
  case h_3 => rfl

theorem readItems_end (limit position : Nat) (rest : List Char) (offset : Nat) :
    readItems readItem (limit + 1) position ⟨']' :: rest, offset⟩ =
      .ok ([], ⟨rest, offset + 1⟩) := by
  have closed : closeArray ⟨']' :: rest, offset⟩ = .ok ⟨rest, offset + 1⟩ := by
    rw [closeArray, skipSpaces_cons (by decide)]
    rfl
  have found : nextItem? (position == 0) ⟨']' :: rest, offset⟩ = .ok none := by
    rw [nextItem?, skipSpaces_cons (by decide)]
    rfl
  rw [readItems, found]
  simp only [closed, bind, Except.bind, pure, Except.pure]

theorem readItems_next {limit position : Nat} {cursor start next after : Cursor} {item : Item}
    {items : List Item} (found : nextItem? (position == 0) cursor = .ok (some start))
    (read : readItem start = .ok (item, next))
    (others : readItems readItem limit (position + 1) next = .ok (items, after)) :
    readItems readItem (limit + 1) position cursor = .ok (item :: items, after) := by
  rw [readItems, found]
  simp only [read, others, bind, Except.bind, pure, Except.pure]

/-- The items behind the first one are read up to the closing bracket. -/
theorem readItems_tailText {items : List Item} {limit : Nat} (enough : items.length < limit)
    (each : ∀ item ∈ items, Begins (text item) ∧
      ∀ rest, Follows rest → Reads readItem (text item) item rest)
    (position : Nat) (rest : List Char) :
    Reads (readItems readItem limit (position + 1)) (tailText text ']' items) items rest := by
  induction items generalizing limit position with
  | nil =>
    intro offset
    obtain ⟨limit, rfl⟩ := Nat.exists_eq_add_one_of_ne_zero (Nat.ne_zero_of_lt enough)
    exact ⟨offset + 1, readItems_end limit (position + 1) rest offset⟩
  | cons item items inductionHypothesis =>
    intro offset
    obtain ⟨limit, rfl⟩ := Nat.exists_eq_add_one_of_ne_zero (Nat.ne_zero_of_lt enough)
    obtain ⟨⟨begins, reads⟩, others⟩ := List.forall_mem_cons.mp each
    obtain ⟨next, readFirst⟩ := reads _ (follows_tailText (.bracket rest) items) (offset + 1)
    obtain ⟨after, readOthers⟩ :=
      inductionHypothesis (Nat.lt_of_succ_lt_succ enough) others (position + 1) next
    refine ⟨after, ?_⟩
    rw [tailText, List.cons_append, List.append_assoc]
    exact readItems_next (nextItem?_comma begins _ offset) readFirst readOthers

/-- An array is read behind its bracket if each of its items is read. -/
theorem readArray_partsText {items : List Item}
    (each : ∀ item ∈ items, Begins (text item) ∧
      ∀ rest, Follows rest → Reads readItem (text item) item rest) (rest : List Char) :
    Reads (readArray readItem) (partsText text ']' items) items rest := by
  intro offset
  cases items with
  | nil => exact ⟨offset + 1, readItems_end _ 0 rest offset⟩
  | cons item items =>
    obtain ⟨⟨begins, reads⟩, others⟩ := List.forall_mem_cons.mp each
    obtain ⟨next, readFirst⟩ := reads _ (follows_tailText (.bracket rest) items) offset
    have enough : items.length < (partsText text ']' (item :: items) ++ rest).length := by
      have counted := length_lt_tailText text ']' items
      simp only [partsText, List.length_append]
      omega
    obtain ⟨after, readOthers⟩ := readItems_tailText enough others 0 rest next
    refine ⟨after, ?_⟩
    rw [readArray]
    rw [partsText, List.append_assoc] at readOthers ⊢
    exact readItems_next (nextItem?_first begins _ offset) readFirst readOthers

end Items

/-! ### Members -/

/-- A new name is written at the end. -/
theorem Table.insert_of_not_mem {Content : Type} {table : Table Content} {key : String}
    (new : key ∉ keys table) (content : Content) :
    insert table key content = table ++ [(key, content)] := by
  induction table with
  | nil => rfl
  | cons entry table inductionHypothesis =>
    have different : ¬entry.1 = key := fun same => new (same ▸ List.mem_cons_self)
    have others : key ∉ keys table := fun member => new (List.mem_cons_of_mem _ member)
    rw [insert, if_neg different, inductionHypothesis others, List.cons_append]

section Members

variable {Content : Type} {readContent : Reader Content} {text : Content → List Char}

/-- The text of a member: its name, a colon and its content. -/
def memberText (text : Content → List Char) (member : String × Content) : List Char :=
  quote member.1.toList ++ ':' :: text member.2

theorem readString_quote (name : String) (rest : List Char) (offset : Nat) :
    ∃ after, readString ⟨name.toList.flatMap escape ++ '"' :: rest, offset⟩ =
      .ok (name, ⟨rest, after⟩) := by
  obtain ⟨after, read⟩ := reads_escaped name.toList rest offset
  rw [String.ofList_toList, List.append_assoc] at read
  exact ⟨after, read⟩

theorem nextKey?_first (name : String) (rest : List Char) (offset : Nat) :
    ∃ after, nextKey? true ⟨quote name.toList ++ rest, offset⟩ =
      .ok (some (name, ⟨rest, after⟩)) := by
  obtain ⟨after, read⟩ := readString_quote name rest (offset + 1)
  refine ⟨after, ?_⟩
  rw [quote, List.cons_append, List.cons_append, nextKey?, skipSpaces_cons (by decide)]
  simp [Cursor.skip, read]

theorem nextKey?_comma (name : String) (rest : List Char) (offset : Nat) :
    ∃ after, nextKey? false ⟨',' :: (quote name.toList ++ rest), offset⟩ =
      .ok (some (name, ⟨rest, after⟩)) := by
  obtain ⟨after, read⟩ := readString_quote name rest (offset + 1 + 1)
  refine ⟨after, ?_⟩
  rw [quote, List.cons_append, List.cons_append, nextKey?, skipSpaces_cons (by decide)]
  simp [Cursor.skip, read, skipSpaces_cons (show Cursor.isSpace '"' = false by decide)]

theorem readMembers_end (limit : Nat) (first : Bool) (table : Table Content) (rest : List Char)
    (offset : Nat) :
    readMembers readContent (limit + 1) first table ⟨'\x7d' :: rest, offset⟩ =
      .ok (table, ⟨rest, offset + 1⟩) := by
  have closed : closeObject ⟨'\x7d' :: rest, offset⟩ = .ok ⟨rest, offset + 1⟩ := by
    rw [closeObject, skipSpaces_cons (by decide)]
    rfl
  have found : nextKey? first ⟨'\x7d' :: rest, offset⟩ = .ok none := by
    rw [nextKey?, skipSpaces_cons (by decide)]
    rfl
  rw [readMembers, found]
  simp only [closed, bind, Except.bind, pure, Except.pure]

/-- A member under a new name is read behind those before it. -/
theorem readMembers_next {limit : Nat} {first : Bool} {table : Table Content}
    {member : String × Content} {cursor next : Cursor} {offset : Nat} {rest : List Char}
    (found : nextKey? first cursor =
      .ok (some (member.1, ⟨':' :: (text member.2 ++ rest), offset⟩)))
    (new : member.1 ∉ Table.keys table)
    (read : readContent ⟨text member.2 ++ rest, offset + 1⟩ = .ok (member.2, next)) :
    readMembers readContent (limit + 1) first table cursor =
      readMembers readContent limit false (table ++ [member]) next := by
  have colon : Cursor.readColon ⟨':' :: (text member.2 ++ rest), offset⟩ =
      .ok ⟨text member.2 ++ rest, offset + 1⟩ := by
    rw [Cursor.readColon, skipSpaces_cons (by decide)]
    rfl
  rw [readMembers, found]
  simp only [colon, read, Table.insert_of_not_mem new, bind, Except.bind]

/-- The members behind the first one are read up to the closing brace, and each of them is written
behind those before it. -/
theorem readMembers_tailText (table : Table Content) {members : Table Content} {limit : Nat}
    (enough : members.length < limit) (distinct : (Table.keys (table ++ members)).Nodup)
    (each : ∀ member ∈ members,
      ∀ rest, Follows rest → Reads readContent (text member.2) member.2 rest)
    (rest : List Char) :
    Reads (readMembers readContent limit false table) (tailText (memberText text) '\x7d' members)
      (table ++ members) rest := by
  induction members generalizing limit table with
  | nil =>
    intro offset
    obtain ⟨limit, rfl⟩ := Nat.exists_eq_add_one_of_ne_zero (Nat.ne_zero_of_lt enough)
    rw [List.append_nil]
    exact ⟨offset + 1, readMembers_end limit false table rest offset⟩
  | cons member members inductionHypothesis =>
    intro offset
    obtain ⟨limit, rfl⟩ := Nat.exists_eq_add_one_of_ne_zero (Nat.ne_zero_of_lt enough)
    obtain ⟨reads, others⟩ := List.forall_mem_cons.mp each
    have new : member.1 ∉ Table.keys table := by
      rw [Table.keys_append, List.nodup_append] at distinct
      exact fun known => distinct.2.2 _ known _ List.mem_cons_self rfl
    rw [List.append_cons] at distinct ⊢
    obtain ⟨start, found⟩ := nextKey?_comma member.1
      (':' :: (text member.2 ++ (tailText (memberText text) '\x7d' members ++ rest))) offset
    obtain ⟨next, readFirst⟩ := reads _ (follows_tailText (.brace rest) members) (start + 1)
    obtain ⟨after, readOthers⟩ :=
      inductionHypothesis _ (Nat.lt_of_succ_lt_succ enough) distinct others next
    refine ⟨after, ?_⟩
    simp only [tailText, memberText, List.cons_append, List.append_assoc] at readOthers ⊢
    rw [readMembers_next found new readFirst, readOthers]

/-- An object is read behind its brace if its names differ and each of its contents is read. -/
theorem readObject_partsText {members : Table Content} (distinct : (Table.keys members).Nodup)
    (each : ∀ member ∈ members,
      ∀ rest, Follows rest → Reads readContent (text member.2) member.2 rest)
    (rest : List Char) :
    Reads (readObject readContent) (partsText (memberText text) '\x7d' members) members rest := by
  intro offset
  cases members with
  | nil => exact ⟨offset + 1, readMembers_end _ true [] rest offset⟩
  | cons member members =>
    obtain ⟨reads, others⟩ := List.forall_mem_cons.mp each
    obtain ⟨start, found⟩ := nextKey?_first member.1
      (':' :: (text member.2 ++ (tailText (memberText text) '\x7d' members ++ rest))) offset
    obtain ⟨next, readFirst⟩ := reads _ (follows_tailText (.brace rest) members) (start + 1)
    have enough : members.length <
        (partsText (memberText text) '\x7d' (member :: members) ++ rest).length := by
      have counted := length_lt_tailText (memberText text) '\x7d' members
      simp only [partsText, List.length_append]
      omega
    obtain ⟨after, readOthers⟩ :=
      readMembers_tailText [member] enough distinct others rest next
    refine ⟨after, ?_⟩
    rw [readObject]
    simp only [partsText, memberText, List.cons_append, List.append_assoc] at readOthers ⊢
    rw [readMembers_next found List.not_mem_nil readFirst]
    exact readOthers

end Members

/-! ### Values -/

namespace Json

theorem compactItems_eq_tailText (items : List Json) :
    compactItems items = tailText compact ']' items := by
  induction items with
  | nil => rfl
  | cons item items inductionHypothesis =>
    show ',' :: item.compact ++ compactItems items = _
    rw [inductionHypothesis, tailText, List.cons_append]

theorem compact_array (items : List Json) :
    (array items).compact = '[' :: partsText compact ']' items := by
  cases items with
  | nil => rfl
  | cons item items =>
    show '[' :: item.compact ++ compactItems items = _
    rw [compactItems_eq_tailText, partsText, List.cons_append]

theorem compactMembers_eq_tailText (members : List (String × Json)) :
    compactMembers members = tailText (memberText compact) '\x7d' members := by
  induction members with
  | nil => rfl
  | cons member members inductionHypothesis =>
    show ',' :: quote member.1.toList ++ ':' :: member.2.compact ++ compactMembers members = _
    rw [inductionHypothesis, tailText, memberText, List.cons_append, List.cons_append]

theorem compact_object (members : List (String × Json)) :
    (object members).compact = '\x7b' :: partsText (memberText compact) '\x7d' members := by
  cases members with
  | nil => rfl
  | cons member members =>
    show '\x7b' :: quote member.1.toList ++ ':' :: member.2.compact ++ compactMembers members = _
    rw [compactMembers_eq_tailText, partsText, memberText, List.cons_append, List.cons_append]

theorem compact_integer (whole : Integer) :
    (number (.integer whole)).compact = integerText whole.value := rfl

theorem compact_string (content : String) : (string content).compact = quote content.toList := rfl

end Json

theorem begins_cons {first : Char} {others : List Char} (dark : isBlank first = false)
    (noEnd : first ≠ ']') : Begins (first :: others) := ⟨first, others, rfl, dark, noEnd⟩

namespace Json

/-- Every value's text begins with a sign of its own. -/
theorem begins_compact {value : Json} (floatless : value.floatless = true) :
    Begins value.compact := by
  cases value with
  | null => exact begins_cons (by decide) (by decide)
  | bool value => cases value <;> exact begins_cons (by decide) (by decide)
  | number value =>
    cases value with
    | float real => cases floatless
    | integer whole =>
      obtain ⟨first, others, written, rfl | digit⟩ := exists_integerText_eq_cons whole.value
      · rw [compact_integer, written]
        exact begins_cons (by decide) (by decide)
      · rw [compact_integer, written]
        exact begins_cons (isBlank_of_isDigit digit) fun ended => by simp [ended] at digit
  | string value =>
    rw [compact_string, quote]
    exact begins_cons (by decide) (by decide)
  | array items =>
    rw [compact_array]
    exact begins_cons (by decide) (by decide)
  | object members =>
    rw [compact_object]
    exact begins_cons (by decide) (by decide)

/-- A number is read where a sign or a digit stands. -/
theorem readValueWith_number {nested : Option (Reader Json)} {first : Char} {others : List Char}
    (form : first = '-' ∨ first.isDigit = true) (offset : Nat) :
    readValueWith nested ⟨first :: others, offset⟩ =
      (readNumber ⟨first :: others, offset⟩).bind fun (value, cursor) =>
        .ok (.number value, cursor) := by
  rcases form with rfl | digit
  · rfl
  · have different : first ≠ 'n' ∧ first ≠ 't' ∧ first ≠ 'f' ∧ first ≠ '"' ∧ first ≠ '[' ∧
        first ≠ '\x7b' := by
      refine ⟨?_, ?_, ?_, ?_, ?_, ?_⟩ <;> rintro rfl <;> cases digit
    unfold readValueWith
    rw [skipSpaces_cons (isSpace_eq_false (isBlank_of_isDigit digit))]
    simp [different, digit, bind, pure, Except.pure]

theorem readValueWith_array {readNested : Reader Json} {text : List Char} {items : List Json}
    {offset : Nat} {next : Cursor}
    (read : readArray readNested ⟨text, offset + 1⟩ = .ok (items, next)) :
    readValueWith (some readNested) ⟨'[' :: text, offset⟩ = .ok (.array items, next) := by
  unfold readValueWith
  rw [skipSpaces_cons (by decide)]
  simp [Cursor.skip, read, bind, Except.bind, pure, Except.pure]

theorem readValueWith_object {readNested : Reader Json} {text : List Char}
    {members : Table Json} {offset : Nat} {next : Cursor}
    (read : readObject readNested ⟨text, offset + 1⟩ = .ok (members, next)) :
    readValueWith (some readNested) ⟨'\x7b' :: text, offset⟩ = .ok (.object members, next) := by
  unfold readValueWith
  rw [skipSpaces_cons (by decide)]
  simp [Cursor.skip, read, bind, Except.bind, pure, Except.pure]

theorem readValueWith_string {nested : Option (Reader Json)} {text : List Char} {content : String}
    {offset : Nat} {next : Cursor} (read : readString ⟨text, offset + 1⟩ = .ok (content, next)) :
    readValueWith nested ⟨'"' :: text, offset⟩ = .ok (.string content, next) := by
  unfold readValueWith
  rw [skipSpaces_cons (by decide)]
  simp [Cursor.skip, read, bind, Except.bind, pure, Except.pure]

theorem readValue_nested (levels : Nat) : ∃ nested, readValue levels = readValueWith nested := by
  cases levels with
  | zero => exact ⟨none, rfl⟩
  | succ levels => exact ⟨some (readValue levels), rfl⟩

/-- A value without floats reads back from its compact text, where as many levels may be opened as
it is deep. -/
theorem reads_compact {value : Json} (distinct : value.Distinct)
    (floatless : value.floatless = true) {levels : Nat} (deep : value.depth ≤ levels)
    {rest : List Char} (follows : Follows rest) :
    Reads (readValue levels) value.compact value rest := by
  induction value generalizing levels rest with
  | null =>
    obtain ⟨nested, levels⟩ := readValue_nested levels
    rw [levels]
    exact fun offset => ⟨offset + 4, rfl⟩
  | bool value =>
    obtain ⟨nested, levels⟩ := readValue_nested levels
    rw [levels]
    cases value with
    | false => exact fun offset => ⟨offset + 5, rfl⟩
    | true => exact fun offset => ⟨offset + 4, rfl⟩
  | number value =>
    intro offset
    cases value with
    | float real => cases floatless
    | integer whole =>
      obtain ⟨nested, levels⟩ := readValue_nested levels
      obtain ⟨first, others, written, form⟩ := exists_integerText_eq_cons whole.value
      obtain ⟨after, read⟩ := reads_integerText whole follows offset
      rw [written, List.cons_append] at read
      refine ⟨after, ?_⟩
      rw [levels, compact_integer, written, List.cons_append, readValueWith_number form, read]
      rfl
  | string value =>
    intro offset
    obtain ⟨nested, levels⟩ := readValue_nested levels
    obtain ⟨after, read⟩ := readString_quote value rest (offset + 1)
    refine ⟨after, ?_⟩
    rw [levels, compact_string, quote, List.cons_append, List.cons_append, List.append_assoc]
    exact readValueWith_string read
  | array items inductionHypothesis =>
    intro offset
    cases distinct with
    | array each =>
      obtain ⟨levels, rfl⟩ := Nat.exists_eq_add_one_of_ne_zero (Nat.ne_zero_of_lt deep)
      have itemsDeep := depthOfItems_le_iff.mp (Nat.le_of_succ_le_succ deep)
      have itemsFloatless := floatlessItems_iff.mp floatless
      have reads : Reads (readArray (readValue levels)) (partsText compact ']' items) items rest :=
        readArray_partsText (fun item member => ⟨begins_compact (itemsFloatless item member),
          fun _ itemFollows => inductionHypothesis item member (each item member)
            (itemsFloatless item member) (itemsDeep item member) itemFollows⟩) rest
      obtain ⟨after, read⟩ := reads (offset + 1)
      refine ⟨after, ?_⟩
      rw [compact_array, List.cons_append]
      exact readValueWith_array read
  | object members inductionHypothesis =>
    intro offset
    cases distinct with
    | object names each =>
      obtain ⟨levels, rfl⟩ := Nat.exists_eq_add_one_of_ne_zero (Nat.ne_zero_of_lt deep)
      have membersDeep := depthOfMembers_le_iff.mp (Nat.le_of_succ_le_succ deep)
      have membersFloatless := floatlessMembers_iff.mp floatless
      have reads : Reads (readObject (readValue levels))
          (partsText (memberText compact) '\x7d' members) members rest :=
        readObject_partsText names (fun member inside _ memberFollows =>
          inductionHypothesis member inside (each member inside) (membersFloatless member inside)
            (membersDeep member inside) memberFollows) rest
      obtain ⟨after, read⟩ := reads (offset + 1)
      refine ⟨after, ?_⟩
      rw [compact_object, List.cons_append]
      exact readValueWith_object read

/-- A value without floats is what is read from its text, as long as it is not too deep. -/
theorem read_text {value : Json} (distinct : value.Distinct) (floatless : value.floatless = true)
    (deep : value.depth ≤ nestingLimit) : read value.text = .ok value := by
  obtain ⟨after, reads⟩ := reads_compact distinct floatless deep .nothing 0
  rw [List.append_nil] at reads
  rw [read, text, Cursor.ofString, String.toList_ofList, reads]
  rfl

end Json

/-! ### Printable texts -/

namespace Json

/-- No character of a compact text is a control character. -/
theorem printable_of_mem_compact {value : Json} (floatless : value.floatless = true) :
    ∀ character ∈ value.compact, 0x20 ≤ character.toNat := by
  have word (letters : List Char) (all : letters.all (0x20 ≤ ·.toNat) = true) :
      ∀ character ∈ letters, 0x20 ≤ character.toNat :=
    fun character member => of_decide_eq_true (List.all_eq_true.mp all character member)
  induction value with
  | null => exact word _ (by decide)
  | bool value => cases value <;> exact word _ (by decide)
  | number value =>
    cases value with
    | float real => cases floatless
    | integer whole => exact fun _ => printable_of_mem_integerText
  | string value => exact fun _ => printable_of_mem_quote
  | array items inductionHypothesis =>
    have itemsFloatless := floatlessItems_iff.mp floatless
    rw [compact_array]
    exact List.forall_mem_cons.mpr ⟨by decide, forall_mem_partsText (by decide) (by decide)
      fun item member => inductionHypothesis item member (itemsFloatless item member)⟩
  | object members inductionHypothesis =>
    have membersFloatless := floatlessMembers_iff.mp floatless
    rw [compact_object]
    refine List.forall_mem_cons.mpr ⟨by decide, forall_mem_partsText (by decide) (by decide)
      fun member inside => ?_⟩
    exact List.forall_mem_append.mpr ⟨fun _ => printable_of_mem_quote, List.forall_mem_cons.mpr
      ⟨by decide, inductionHypothesis member inside (membersFloatless member inside)⟩⟩

end Json

end JsonShape
