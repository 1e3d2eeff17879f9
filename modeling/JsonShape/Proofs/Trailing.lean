/-
This file shows what a definition text may hold besides its definitions: anything, as
long as it stands behind them. Every accepted text begins with a whole JSON document,
and it is that document alone that is read (`DefinitionFile.read_eq_ok_iff_exists_document`). The
document is found by reading the file at the pace of a value: structures, declarations
and tables are arrays and objects, and where the reader of one stops, the reader of the
values would stop as well. An input text with something behind its document is refused,
while a definition text is not (`DefinitionFile.read_twoFiles`).
-/

import JsonShape.Proofs.Pace

namespace JsonShape

/-! ### Scalars -/

section Scalars

variable {First Second : Type} {first : Reader First} {second : Reader Second}

/-- A reader that makes something of what another one reads keeps pace as that one does. -/
theorem Paced.map {Content : Type} (paced : Paced first second) (change : First → Content) :
    Paced (fun cursor => do
      let (content, cursor) ← first cursor
      return (change content, cursor)) second := by
  intro text offset content rest after read
  simp only [bind_eq_ok_iff, pure_eq_ok_iff, Prod.mk.injEq] at read
  obtain ⟨⟨found, _⟩, read, rfl, rfl⟩ := read
  obtain ⟨consumed, value, rfl, nonempty, both⟩ := paced read
  refine ⟨consumed, value, rfl, nonempty, fun other same =>
    ⟨fun offset => ?_, (both other same).2⟩⟩
  obtain ⟨after, again⟩ := (both other same).1 offset
  refine ⟨after, ?_⟩
  simp only [again, bind, Except.bind, pure, Except.pure]

variable (nested : Option (Reader Json))

theorem readText_paced : Paced readText (readValueWith nested) := by
  refine paced_of_dark (fun cursor => ?_) (readValueWith_skipSpaces nested)
    (fun offset => ⟨_, rfl⟩) ?_
  · unfold readText
    rw [Cursor.skipSpaces_skipSpaces]
  · intro character text offset content rest after dark read
    rw [readText, skipSpaces_cons dark] at read
    dsimp only at read
    split at read
    case h_1 written => cases written
    case h_2 written =>
      cases written
      obtain ⟨consumed, rfl, again⟩ := readString_consumes read
      refine ⟨consumed, .string content, rfl, fun other _ =>
        ⟨fun offset => ?_, reads_string (again other)⟩⟩
      exact again other (offset + 1)
    case h_3 => cases read

theorem readFloat_paced : Paced readFloat (readValueWith nested) := by
  refine paced_of_dark (fun cursor => ?_) (readValueWith_skipSpaces nested)
    (fun offset => ⟨_, rfl⟩) ?_
  · unfold readFloat
    rw [Cursor.skipSpaces_skipSpaces]
  · intro character text offset float rest after dark read
    rw [readFloat, skipSpaces_cons dark] at read
    dsimp only at read
    split at read
    · rename_i form
      simp only [bind_eq_ok_iff] at read
      obtain ⟨⟨number, next⟩, parts, read⟩ := read
      split at read
      · rename_i found
        simp only [pure_eq_ok_iff, Prod.mk.injEq] at read
        obtain ⟨rfl, rfl⟩ := read
        obtain ⟨consumed, rfl, again⟩ := consumes_number parts
        refine ⟨consumed, .number number, rfl, fun other same =>
          ⟨fun offset => ?_, reads_number form (again other same)⟩⟩
        obtain ⟨after, again⟩ := again other same offset
        refine ⟨after, ?_⟩
        rw [List.cons_append] at again ⊢
        rw [readFloat, skipSpaces_cons dark]
        simp only [form, if_true, again, found, bind, Except.bind, pure, Except.pure]
      · cases read
    · cases read

/-- Behind blanks the word `null` is read by its letters, and everything else by the reader. -/
theorem readOptional_paced {Content : Type} {read : Reader Content}
    (paced : Paced read (readValueWith nested)) :
    Paced (readOptional read) (readValueWith nested) := by
  refine paced_of_dark (fun cursor => ?_) (readValueWith_skipSpaces nested)
    (fun offset => ?_) ?_
  · unfold readOptional
    rw [Cursor.skipSpaces_skipSpaces]
  · -- The reader cannot succeed at the end of a text, because it reads at least one character.
    cases done : read ⟨[], offset⟩ with
    | error error => exact ⟨error, by simp [readOptional, Cursor.skipSpaces,
        Cursor.skipSpacesOf, done, bind, Except.bind]⟩
    | ok found =>
      obtain ⟨consumed, _, written, nonempty, _⟩ := paced done
      exact absurd (List.append_eq_nil_iff.mp written.symm).1 nonempty
  · intro character text offset content rest after dark done
    by_cases null : character = 'n'
    · subst null
      obtain ⟨rfl, split⟩ := consumes_word (fun _ _ => rfl) done
      exact ⟨_, .null, split, fun other _ =>
        ⟨reads_word (fun _ _ => rfl) other, reads_word (fun _ _ => rfl) other⟩⟩
    · have passes (text : List Char) (offset : Nat) :
          readOptional read ⟨character :: text, offset⟩ = do
            let (content, cursor) ← read ⟨character :: text, offset⟩
            return (some content, cursor) := by
        rw [readOptional, skipSpaces_cons dark]
        simp [null]
      obtain ⟨consumed, value, written, nonempty, both⟩ :=
        paced.map some (passes text offset ▸ done)
      cases consumed with
      | nil => exact absurd rfl nonempty
      | cons first consumed =>
        obtain ⟨rfl, rfl⟩ := List.cons.inj written
        refine ⟨consumed, value, rfl, fun other same => ⟨fun offset => ?_, (both other same).2⟩⟩
        rw [List.cons_append, passes]
        exact (both other same).1 offset

end Scalars

/-! ### Structures -/

section Structures

variable {Draft Value : Type} {fields : List (FieldReader Draft)} {readOther : Reader Value}

/-- What a reader reads, with the sign behind it. -/
def closedBy {Content : Type} (read : Reader Content) (close : Cursor → Except ReadError Cursor) :
    Reader Content := fun cursor => do
  let (content, cursor) ← read cursor
  return (content, ← close cursor)

theorem closedBy_eq_ok_iff {Content : Type} {read : Reader Content}
    {close : Cursor → Except ReadError Cursor} {cursor next : Cursor} {content : Content} :
    closedBy read close cursor = .ok (content, next) ↔
      ∃ middle, read cursor = .ok (content, middle) ∧ close middle = .ok next := by
  simp only [closedBy, bind_eq_ok_iff, pure_eq_ok_iff, Prod.mk.injEq, Prod.exists]
  constructor
  · rintro ⟨_, middle, read, _, closed, rfl, rfl⟩
    exact ⟨middle, read, closed⟩
  · rintro ⟨middle, read, closed⟩
    exact ⟨content, middle, read, next, closed, rfl, rfl⟩

theorem readNamedFields_end_of_leads {blanks : List Char} (leads : Leads blanks '\x7d')
    {limit : Nat} (enough : (blanks ++ ['\x7d']).length ≤ limit) (first : Bool) (draft : Draft)
    (other : List Char) :
    Reads (closedBy (readNamedFields fields limit first draft) closeObject) (blanks ++ ['\x7d'])
      draft other := by
  intro offset
  rw [List.length_append] at enough
  obtain ⟨limit, rfl⟩ := Nat.exists_eq_add_one_of_ne_zero (Nat.ne_zero_of_lt enough)
  obtain ⟨start, skipped⟩ := leads.skips other offset
  refine ⟨start + 1, closedBy_eq_ok_iff.mpr ⟨⟨'\x7d' :: other, start⟩, ?_, ?_⟩⟩
  · rw [List.append_assoc, List.singleton_append, readNamedFields, leads.nextKey?_none]
    exact congrArg (fun cursor => Except.ok (draft, cursor)) skipped
  · rw [closeObject, skipSpaces_cons leads.dark]
    rfl

theorem readNamedFields_cons {front text others other : List Char} {key : String} {limit : Nat}
    {first : Bool} {field : FieldReader Draft} {draft next result : Draft}
    (heads : Heads first front key)
    (found : fields.find? (fun field => field.name == key) = some field)
    (absent : ¬field.present draft = true)
    (read : Reads (field.read draft) text next (others ++ other))
    (reads : Reads (closedBy (readNamedFields fields limit false next) closeObject) others result
      other) :
    Reads (closedBy (readNamedFields fields (limit + 1) first draft) closeObject)
      (front ++ (text ++ others)) result other := by
  intro offset
  obtain ⟨middle, start, key, colon⟩ := heads (text ++ (others ++ other)) offset
  obtain ⟨behind, read⟩ := read start
  obtain ⟨after, reads⟩ := reads behind
  obtain ⟨finished, named, closed⟩ := closedBy_eq_ok_iff.mp reads
  refine ⟨after, closedBy_eq_ok_iff.mpr ⟨finished, ?_, closed⟩⟩
  rw [List.append_assoc, List.append_assoc, readNamedFields, key]
  simp only [found, if_neg absent, colon, read, named, bind, Except.bind]

/-- The loop over named fields keeps pace with the loop over members if the readers of the fields
keep pace with those of the contents. -/
theorem readNamedFields_paced
    (paced : ∀ field ∈ fields, ∀ draft, Paced (field.read draft) readOther) {limit : Nat}
    {first : Bool} {draft result : Draft} (values : Table Value) {text rest : List Char}
    {offset after : Nat}
    (read : closedBy (readNamedFields fields limit first draft) closeObject ⟨text, offset⟩ =
      .ok (result, ⟨rest, after⟩)) :
    ∃ consumed final, text = consumed ++ rest ∧ consumed ≠ [] ∧
      ∀ limit, consumed.length ≤ limit → ∀ other,
        Reads (closedBy (readNamedFields fields limit first draft) closeObject) consumed result
            other ∧
          Reads (readMembers readOther limit first values) consumed final other := by
  rw [closedBy_eq_ok_iff] at read
  obtain ⟨finished, read, closed⟩ := read
  induction limit generalizing first draft values text offset with
  | zero => cases read
  | succ limit inductionHypothesis =>
    rw [readNamedFields] at read
    split at read
    · cases read
    · simp only [Except.ok.injEq, Prod.mk.injEq] at read
      obtain ⟨rfl, rfl⟩ := read
      rw [closeObject_stepsOver.skipSpaces_eq_ok_iff] at closed
      obtain ⟨blanks, rfl, leads⟩ := closeObject_stepsOver.exists_leads closed
      refine ⟨blanks ++ ['\x7d'], values, by simp, by simp, fun limit enough other => ?_⟩
      exact ⟨readNamedFields_end_of_leads leads enough first draft other,
        readMembers_end_of_leads leads enough first values other⟩
    · rename_i key middle found
      split at read
      · cases read
      · rename_i field isField
        split at read
        · cases read
        · rename_i absent
          simp only [bind_eq_ok_iff] at read
          obtain ⟨⟨start, begins⟩, colon, read⟩ := read
          cases readFirst : field.read draft ⟨start, begins⟩ with
          | error error => simp only [readFirst, reduceCtorEq] at read
          | ok pair =>
            obtain ⟨next, ⟨middle, behind⟩⟩ := pair
            simp only [readFirst] at read
            obtain ⟨text, value, rfl, _, bothFirst⟩ :=
              paced field (List.mem_of_find?_eq_some isField) draft readFirst
            -- To the other side the field is a member like any other.
            obtain ⟨others, final, rfl, nonempty, bothOthers⟩ :=
              inductionHypothesis (Table.insert values key value) read
            obtain ⟨front, rfl, heads⟩ := exists_heads found colon
            refine ⟨front ++ (text ++ others), final, by simp, by simp [nonempty],
              fun limit enough other => ?_⟩
            have positive := heads.length_pos
            simp only [List.length_append] at enough
            obtain ⟨limit, rfl⟩ := Nat.exists_eq_add_one_of_ne_zero (show limit ≠ 0 by omega)
            have both := bothFirst _ (head?_append_eq nonempty other rest)
            have bothAfter := bothOthers limit (by omega) other
            exact ⟨readNamedFields_cons heads isField absent both.1 bothAfter.1,
              readMembers_cons heads both.2 bothAfter.2⟩

theorem readPlacedFields_end_of_leads {blanks : List Char} (leads : Leads blanks ']')
    (fields : List (FieldReader Draft)) (position : Nat) (draft : Draft) (other : List Char) :
    Reads (closedBy (readPlacedFields fields position draft) closeArray) (blanks ++ [']']) draft
      other := by
  intro offset
  rw [List.append_assoc, List.singleton_append]
  obtain ⟨after, closed⟩ := closeArray_stepsOver.again leads other offset
  refine ⟨after, closedBy_eq_ok_iff.mpr ?_⟩
  cases fields with
  | nil => exact ⟨_, rfl, closed⟩
  | cons field fields =>
    rw [readPlacedFields, leads.nextItem?_none]
    exact ⟨_, rfl, closeArray_stepsOver.skipSpaces_eq_ok_iff.mpr closed⟩

/-- Where the bracket comes next, no more fields and no more items are read. -/
theorem readPlacedFields_ended (fields : List (FieldReader Draft)) (position : Nat) (draft : Draft)
    {text rest : List Char} {offset after : Nat}
    (closed : closeArray ⟨text, offset⟩ = .ok ⟨rest, after⟩) :
    ∃ consumed values, text = consumed ++ rest ∧ consumed ≠ [] ∧
      ∀ limit, consumed.length ≤ limit → ∀ other,
        Reads (closedBy (readPlacedFields fields position draft) closeArray) consumed draft
            other ∧
          Reads (readItems readOther limit position) consumed values other := by
  obtain ⟨blanks, rfl, leads⟩ := closeArray_stepsOver.exists_leads closed
  refine ⟨blanks ++ [']'], [], by simp, by simp, fun limit enough other => ?_⟩
  exact ⟨readPlacedFields_end_of_leads leads fields position draft other,
    readItems_end_of_leads leads enough position other⟩

theorem readPlacedFields_cons {front text others other : List Char} {position : Nat}
    {field : FieldReader Draft} {draft next result : Draft}
    (found : ∀ offset, ∃ after, nextItem? (position == 0)
      ⟨front ++ (text ++ (others ++ other)), offset⟩ =
        .ok (some ⟨text ++ (others ++ other), after⟩))
    (read : Reads (field.read draft) text next (others ++ other))
    (reads : Reads (closedBy (readPlacedFields fields (position + 1) next) closeArray) others result
      other) :
    Reads (closedBy (readPlacedFields (field :: fields) position draft) closeArray)
      (front ++ (text ++ others)) result other := by
  intro offset
  obtain ⟨start, found⟩ := found offset
  obtain ⟨behind, read⟩ := read start
  obtain ⟨after, reads⟩ := reads behind
  obtain ⟨finished, placed, closed⟩ := closedBy_eq_ok_iff.mp reads
  refine ⟨after, closedBy_eq_ok_iff.mpr ⟨finished, ?_, closed⟩⟩
  rw [List.append_assoc, List.append_assoc, readPlacedFields, found]
  simp only [read, placed]

/-- The loop over placed fields keeps pace with the loop over items, though it stops looking for
more when all its fields are read: then only the bracket may follow. -/
theorem readPlacedFields_paced
    (paced : ∀ field ∈ fields, ∀ draft, Paced (field.read draft) readOther) {position : Nat}
    {draft result : Draft} {text rest : List Char} {offset after : Nat}
    (read : closedBy (readPlacedFields fields position draft) closeArray ⟨text, offset⟩ =
      .ok (result, ⟨rest, after⟩)) :
    ∃ consumed values, text = consumed ++ rest ∧ consumed ≠ [] ∧
      ∀ limit, consumed.length ≤ limit → ∀ other,
        Reads (closedBy (readPlacedFields fields position draft) closeArray) consumed result
            other ∧
          Reads (readItems readOther limit position) consumed values other := by
  rw [closedBy_eq_ok_iff] at read
  obtain ⟨finished, read, closed⟩ := read
  induction fields generalizing position draft text offset with
  | nil =>
    simp only [readPlacedFields, Except.ok.injEq, Prod.mk.injEq] at read
    obtain ⟨rfl, rfl⟩ := read
    exact readPlacedFields_ended [] position draft closed
  | cons field fields inductionHypothesis =>
    obtain ⟨pacedFirst, pacedOthers⟩ := List.forall_mem_cons.mp paced
    rw [readPlacedFields] at read
    split at read
    · cases read
    · simp only [Except.ok.injEq, Prod.mk.injEq] at read
      obtain ⟨rfl, rfl⟩ := read
      rw [closeArray_stepsOver.skipSpaces_eq_ok_iff] at closed
      exact readPlacedFields_ended (field :: fields) position draft closed
    · rename_i start found
      obtain ⟨start, begins⟩ := start
      cases readFirst : field.read draft ⟨start, begins⟩ with
      | error error => simp only [readFirst, reduceCtorEq] at read
      | ok pair =>
        obtain ⟨next, ⟨middle, behind⟩⟩ := pair
        simp only [readFirst] at read
        obtain ⟨others, values, rfl, nonempty, bothOthers⟩ := inductionHypothesis pacedOthers read
        obtain ⟨text, value, rfl, nonemptyFirst, bothFirst⟩ := pacedFirst draft readFirst
        obtain ⟨front, rfl, again⟩ := nextItem?_some found
        refine ⟨front ++ (text ++ others), value :: values, by simp, by simp [nonempty],
          fun limit enough other => ?_⟩
        have positive := List.length_pos_iff.mpr nonemptyFirst
        simp only [List.length_append] at enough
        obtain ⟨limit, rfl⟩ := Nat.exists_eq_add_one_of_ne_zero (show limit ≠ 0 by omega)
        have both := bothFirst _ (head?_append_eq nonempty other rest)
        have bothAfter := bothOthers limit (by omega) other
        have found := again _ (head?_append_eq nonemptyFirst (others ++ other) (others ++ rest))
        exact ⟨readPlacedFields_cons found both.1 bothAfter.1,
          readItems_cons found both.2 bothAfter.2⟩

variable {Result : Type} {wanted : Wanted} {empty : Draft}
  {finish : Bool → Draft → Except Fault Result} {cursor next : Cursor} {text : List Char}
  {start : Nat} {result : Result}

/-- A structure is read if its fields and the sign behind them are, and they can be finished. -/
theorem finish_eq_ok_iff {read : Reader Draft} {close : Cursor → Except ReadError Cursor}
    {finish : Draft → Except Fault Result} {closing : Char} :
    (do
      let (draft, cursor) ← read cursor
      match finish draft with
      | .error fault => .error (errorLeaving closing fault cursor)
      | .ok result => return (result, ← close cursor)) = .ok (result, next) ↔
      ∃ draft, closedBy read close cursor = .ok (draft, next) ∧ finish draft = .ok result := by
  simp only [bind_eq_ok_iff, Prod.exists, closedBy_eq_ok_iff]
  constructor
  · rintro ⟨draft, middle, read, done⟩
    split at done
    · cases done
    · rename_i finished
      simp only [bind_eq_ok_iff, pure_eq_ok_iff, Prod.mk.injEq] at done
      obtain ⟨_, closed, rfl, rfl⟩ := done
      exact ⟨draft, ⟨middle, read, closed⟩, finished⟩
  · rintro ⟨draft, ⟨middle, read, closed⟩, finished⟩
    refine ⟨draft, middle, read, ?_⟩
    simp only [finished, closed, bind, Except.bind, pure, Except.pure]

theorem readStructure_named_iff (skipped : cursor.skipSpaces = ⟨'\x7b' :: text, start⟩) :
    readStructure wanted fields empty finish cursor = .ok (result, next) ↔
      ∃ draft, closedBy (readNamedFields fields (text.length + 1) true empty) closeObject
          ⟨text, start + 1⟩ = .ok (draft, next) ∧
        finish false draft = .ok result := by
  rw [readStructure, skipped]
  exact finish_eq_ok_iff

theorem readStructure_placed_iff (skipped : cursor.skipSpaces = ⟨'[' :: text, start⟩) :
    readStructure wanted fields empty finish cursor = .ok (result, next) ↔
      ∃ draft, closedBy (readPlacedFields fields 0 empty) closeArray ⟨text, start + 1⟩ =
          .ok (draft, next) ∧
        finish true draft = .ok result := by
  rw [readStructure, skipped]
  exact finish_eq_ok_iff

/-- A structure keeps pace with an array or object if its fields keep pace with what that holds. -/
theorem readStructure_sealed {readNested : Reader Json}
    (paced : ∀ field ∈ fields, ∀ draft, Paced (field.read draft) readNested) :
    Sealed (readStructure wanted fields empty finish) (readValueWith (some readNested)) := by
  intro text offset result rest after read
  have skips := readValueWith_skipSpaces (some readNested)
  cases skipped : Cursor.skipSpaces ⟨text, offset⟩ with
  | mk dark start =>
    by_cases named : dark.head? = some '\x7b'
    · obtain ⟨inside, rfl⟩ := List.head?_eq_some_iff.mp named
      obtain ⟨draft, inner, finished⟩ := (readStructure_named_iff skipped).mp read
      obtain ⟨blanks, rfl, leads⟩ := exists_leads skipped
      obtain ⟨consumed, members, rfl, _, both⟩ := readNamedFields_paced paced [] inner
      refine ⟨blanks ++ '\x7b' :: consumed, .object members, by simp, by simp, fun other => ?_⟩
      refine ⟨fun offset => ?_, leads.reads skips (reads_object (reads_readObject
        fun limit enough => (both limit enough other).2))⟩
      obtain ⟨start, skipped⟩ := leads.skips (consumed ++ other) offset
      have enough : consumed.length ≤ (consumed ++ other).length + 1 := by
        rw [List.length_append]
        omega
      obtain ⟨after, again⟩ := (both _ enough other).1 (start + 1)
      rw [List.append_assoc]
      exact ⟨after, (readStructure_named_iff skipped).mpr ⟨draft, again, finished⟩⟩
    · by_cases placed : dark.head? = some '['
      · obtain ⟨inside, rfl⟩ := List.head?_eq_some_iff.mp placed
        obtain ⟨draft, inner, finished⟩ := (readStructure_placed_iff skipped).mp read
        obtain ⟨blanks, rfl, leads⟩ := exists_leads skipped
        obtain ⟨consumed, items, rfl, _, both⟩ := readPlacedFields_paced paced inner
        refine ⟨blanks ++ '[' :: consumed, .array items, by simp, by simp, fun other => ?_⟩
        refine ⟨fun offset => ?_, leads.reads skips (reads_array (reads_readArray
          fun limit enough => (both limit enough other).2))⟩
        obtain ⟨start, skipped⟩ := leads.skips (consumed ++ other) offset
        obtain ⟨after, again⟩ := (both consumed.length (Nat.le_refl _) other).1 (start + 1)
        rw [List.append_assoc]
        exact ⟨after, (readStructure_placed_iff skipped).mpr ⟨draft, again, finished⟩⟩
      · rw [readStructure, skipped] at read
        dsimp only at read
        split at read
        case h_1 => cases read
        case h_2 => exact absurd rfl named
        case h_3 => exact absurd rfl placed
        case h_4 => cases read

end Structures

/-! ### Declarations -/

theorem refinementFields_paced (nested : Option (Reader Json)) :
    ∀ field ∈ refinementFields, ∀ draft, Paced (field.read draft) (readValueWith nested) := by
  have text : Paced readText (readValueWith nested) := readText_paced nested
  have float : Paced readFloat (readValueWith nested) := readFloat_paced nested
  have someText := readOptional_paced nested text
  have someFloat := readOptional_paced nested float
  refine List.forall_mem_cons.mpr ⟨fun draft => ?base, List.forall_mem_cons.mpr
    ⟨fun draft => ?pattern, List.forall_mem_cons.mpr ⟨fun draft => ?minimum,
      List.forall_mem_singleton.mpr fun draft => ?maximum⟩⟩⟩
  case base => exact text.map fun base => { draft with base := some base }
  case pattern => exact someText.map fun pattern => { draft with pattern := some pattern }
  case minimum => exact someFloat.map fun minimum => { draft with minimum := some minimum }
  case maximum => exact someFloat.map fun maximum => { draft with maximum := some maximum }

/-- What is declared keeps pace with a value as deep as the raw fields of a record may be. -/
theorem readDeclared_paced (word : String) : Paced (readDeclared word) (readValue specLevels) := by
  have values : Paced (readValue specLevels) (readValue specLevels) := readValue_paced specLevels
  have refinement : Paced readRefinement (readValue specLevels) :=
    (readStructure_sealed (refinementFields_paced _)).paced
  by_cases isData : word = "data"
  · have equal : readDeclared word = _ := funext fun cursor => if_pos isData
    rw [equal]
    exact values.map Declaration.data
  · by_cases isUnion : word = "union"
    · have equal : readDeclared word = _ :=
        funext fun cursor => (if_neg isData).trans (if_pos isUnion)
      rw [equal]
      exact values.map Declaration.union
    · have equal : readDeclared word = _ :=
        funext fun cursor => (if_neg isData).trans (if_neg isUnion)
      rw [equal]
      exact refinement.map Declaration.refine

theorem readDeclarationWord_eq_ok_iff {text : List Char} {offset : Nat} {word : String}
    {next : Cursor} :
    readDeclarationWord ⟨'"' :: text, offset⟩ = .ok (word, next) ↔
      readString ⟨text, offset + 1⟩ = .ok (word, next) ∧ declarationWords.contains word = true := by
  simp only [readDeclarationWord, bind_eq_ok_iff, Prod.exists]
  constructor
  · rintro ⟨found, middle, read, done⟩
    split at done
    · rename_i known
      simp only [pure_eq_ok_iff, Prod.mk.injEq] at done
      obtain ⟨rfl, rfl⟩ := done
      exact ⟨read, known⟩
    · cases done
  · rintro ⟨read, known⟩
    exact ⟨word, next, read, by rw [if_pos known]; rfl⟩

/-- A declaration is read as an object is that has its word as the only key. -/
theorem readDeclaration_eq_ok_iff {text : List Char} {offset : Nat} {declaration : Declaration}
    {next : Cursor} :
    readDeclaration ⟨'\x7b' :: text, offset⟩ = .ok (declaration, next) ↔
      ∃ word middle start final,
        nextKey? true ⟨text, offset + 1⟩ = .ok (some (word, middle)) ∧
        declarationWords.contains word = true ∧ middle.readColon = .ok start ∧
        readDeclared word start = .ok (declaration, final) ∧
        closeDeclaration final = .ok next := by
  rw [readDeclaration, skipSpaces_cons (by decide)]
  simp only [Cursor.skip, List.drop_succ_cons, List.drop_zero, nextKey?_true_eq_some_iff,
    KeyAt]
  generalize Cursor.skipSpaces ⟨text, offset + 1⟩ = start
  obtain ⟨rest, begins⟩ := start
  constructor
  · intro read
    dsimp only at read
    split at read
    · cases read
    · cases read
    · simp only [bind_eq_ok_iff, Prod.exists, readDeclarationWord_eq_ok_iff] at read
      obtain ⟨word, middle, ⟨key, known⟩, start, colon, read⟩ := read
      split at read
      · cases read
      · simp only [bind_eq_ok_iff, pure_eq_ok_iff, Prod.mk.injEq] at read
        obtain ⟨_, closed, rfl, rfl⟩ := read
        exact ⟨word, middle, start, _, ⟨_, _, rfl, key⟩, known, colon, ‹_›, closed⟩
    · cases read
  · rintro ⟨word, middle, start, final, ⟨others, begins, same, key⟩, known, colon, read, closed⟩
    obtain ⟨rfl, rfl⟩ := Cursor.mk.inj same
    have named := readDeclarationWord_eq_ok_iff.mpr ⟨key, known⟩
    simp only [named, colon, read, closed, bind, Except.bind, pure, Except.pure]

/-- A declaration keeps pace with an object of one member. -/
theorem readDeclaration_paced : Paced readDeclaration (readValue (specLevels + 1)) := by
  show Paced readDeclaration (readValueWith (some (readValue specLevels)))
  refine paced_of_dark (fun cursor => ?_) (readValueWith_skipSpaces _)
    (fun offset => ⟨_, rfl⟩) ?_
  · unfold readDeclaration
    rw [Cursor.skipSpaces_skipSpaces]
  · intro character text offset declaration rest after dark read
    by_cases brace : character = '\x7b'
    · subst brace
      obtain ⟨word, middle, ⟨start, begins⟩, ⟨final, ends⟩, key, known, colon, declared, closed⟩ :=
        readDeclaration_eq_ok_iff.mp read
      obtain ⟨blanks, rfl, leads⟩ := closeDeclaration_stepsOver.exists_leads closed
      obtain ⟨consumed, value, rfl, _, both⟩ := readDeclared_paced word declared
      obtain ⟨front, rfl, heads⟩ := exists_heads key colon
      -- The brace that closes the declaration ends what is declared.
      have closing (other : List Char) : (blanks ++ ['\x7d'] ++ other).head? =
          (blanks ++ '\x7d' :: rest).head? := by
        cases blanks <;> rfl
      refine ⟨front ++ (consumed ++ (blanks ++ ['\x7d'])), .object [(word, value)], by simp,
        fun other _ => ⟨fun offset => ?_, reads_object (reads_readObject
          fun limit enough => ?_)⟩⟩
      · obtain ⟨middle, start, key, colon⟩ :=
          heads (consumed ++ (blanks ++ ['\x7d'] ++ other)) (offset + 1)
        obtain ⟨final, declared⟩ := (both _ (closing other)).1 start
        obtain ⟨after, closed⟩ := closeDeclaration_stepsOver.again leads other final
        refine ⟨after, ?_⟩
        rw [List.cons_append, List.append_assoc, List.append_assoc]
        rw [← List.singleton_append, ← List.append_assoc] at closed
        exact readDeclaration_eq_ok_iff.mpr
          ⟨word, middle, _, _, key, known, colon, declared, closed⟩
      · have positive := heads.length_pos
        simp only [List.length_append] at enough
        obtain ⟨limit, rfl⟩ := Nat.exists_eq_add_one_of_ne_zero (show limit ≠ 0 by omega)
        have inside : (blanks ++ ['\x7d']).length ≤ limit := by
          rw [List.length_append]
          omega
        exact readMembers_cons heads (both _ (closing other)).2
          (readMembers_end_of_leads leads inside false _ other)
    · rw [readDeclaration, skipSpaces_cons dark] at read
      dsimp only at read
      split at read
      case h_1 => cases read
      case h_2 =>
        simp only [bind_eq_ok_iff, reduceCtorEq, and_false, exists_false] at read
      case h_3 written => exact absurd (List.cons.inj written).1 brace
      case h_4 => cases read

/-- The table of declarations keeps pace with an object. -/
theorem readDeclarations_paced : Paced readDeclarations (readValue (specLevels + 2)) := by
  show Paced readDeclarations (readValueWith (some (readValue (specLevels + 1))))
  refine paced_of_dark (fun cursor => ?_) (readValueWith_skipSpaces _)
    (fun offset => ⟨_, rfl⟩) ?_
  · unfold readDeclarations
    rw [Cursor.skipSpaces_skipSpaces]
  · intro character text offset table rest after dark read
    rw [readDeclarations, skipSpaces_cons dark] at read
    dsimp only at read
    split at read
    case h_1 written => cases written
    case h_2 written =>
      cases written
      obtain ⟨consumed, members, rfl, _, both⟩ := readObject_sealed readDeclaration_paced read
      exact ⟨consumed, .object members, rfl, fun other _ =>
        ⟨fun offset => (both other).1 (offset + 1), reads_object (both other).2⟩⟩
    case h_3 => cases read

/-! ### Files -/

/-- A file keeps pace with a value as deep as values may be. -/
theorem readFile_sealed : Sealed readFile (readValue nestingLimit) := by
  show Sealed readFile (readValueWith (some (readValue (specLevels + 2))))
  refine readStructure_sealed fun field member draft => ?_
  obtain rfl := List.mem_singleton.mp member
  exact readDeclarations_paced.map some

theorem isEmpty_skipSpaces (text : List Char) (offset : Nat) :
    (Cursor.skipSpaces ⟨text, offset⟩).rest.isEmpty = text.all Cursor.isSpace := by
  induction text generalizing offset with
  | nil => rfl
  | cons character text inductionHypothesis =>
    rw [Cursor.skipSpaces, Cursor.skipSpacesOf, List.all_cons]
    cases space : Cursor.isSpace character with
    | true => exact inductionHypothesis (offset + 1)
    | false => rfl

/-- Behind the value of an input text only blanks may stand. -/
theorem Json.read_of_reads {document rest : String} {value : Json}
    (reads : Reads (readValue nestingLimit) document.toList value rest.toList) :
    ∃ offset, Json.read (document ++ rest) =
      if rest.toList.all Cursor.isSpace then .ok value
      else .error ⟨.trailingText, offset, []⟩ := by
  obtain ⟨after, reads⟩ := reads 0
  refine ⟨((Cursor.skipSpaces ⟨rest.toList, after⟩).errorAtNext .trailingText).offset, ?_⟩
  rw [Json.read, Cursor.ofString, String.toList_append, reads]
  simp only [bind, Except.bind, pure, Except.pure, isEmpty_skipSpaces]
  rfl

/-- Behind the value of a definition text anything may stand. -/
theorem DefinitionFile.read_of_reads {document rest : String} {file : DefinitionFile}
    (reads : Reads readFile document.toList file rest.toList) :
    DefinitionFile.read (document ++ rest) = .ok file := by
  obtain ⟨after, reads⟩ := reads 0
  rw [DefinitionFile.read, Cursor.ofString, String.toList_append, reads]

/-- An accepted definition text begins with a document that is read in its stead, whatever stands
behind it. -/
theorem DefinitionFile.exists_document {text : String} {file : DefinitionFile}
    (accepted : DefinitionFile.read text = .ok file) :
    ∃ document rest value, text = document ++ rest ∧
      ∀ other, DefinitionFile.read (document ++ other) = .ok file ∧
        ∃ offset, Json.read (document ++ other) =
          if other.toList.all Cursor.isSpace then .ok value
          else .error ⟨.trailingText, offset, []⟩ := by
  unfold DefinitionFile.read at accepted
  split at accepted
  · rename_i found cursor read
    obtain rfl := Except.ok.inj accepted
    obtain ⟨rest, after⟩ := cursor
    obtain ⟨consumed, value, written, _, both⟩ := readFile_sealed read
    refine ⟨String.ofList consumed, String.ofList rest, value, ?_, fun other => ?_⟩
    · rw [← String.ofList_append, ← written, String.ofList_toList]
    · have inside := both other.toList
      rw [show consumed = (String.ofList consumed).toList from String.toList_ofList.symm] at inside
      exact ⟨DefinitionFile.read_of_reads inside.1, Json.read_of_reads inside.2⟩
  · cases accepted

/-- A definition text is accepted if it begins with a document that is a whole JSON value and is
itself accepted. What stands behind the document is not looked at: as an input text the same text
is refused unless it is blank. -/
theorem DefinitionFile.read_eq_ok_iff_exists_document {text : String} {file : DefinitionFile} :
    DefinitionFile.read text = .ok file ↔
      ∃ document rest value, text = document ++ rest ∧
        DefinitionFile.read document = .ok file ∧ Json.read document = .ok value ∧
        ∃ offset, Json.read text =
          if rest.toList.all Cursor.isSpace then .ok value
          else .error ⟨.trailingText, offset, []⟩ := by
  constructor
  · intro accepted
    obtain ⟨document, rest, value, rfl, reads⟩ := DefinitionFile.exists_document accepted
    obtain ⟨alone, _, whole⟩ := reads ""
    rw [String.append_empty] at alone whole
    exact ⟨document, rest, value, rfl, alone, whole, (reads rest).2⟩
  · rintro ⟨document, rest, _, rfl, accepted, _⟩
    obtain ⟨front, blanks, _, rfl, reads⟩ := DefinitionFile.exists_document accepted
    rw [String.append_assoc]
    exact (reads (blanks ++ rest)).1

/-- Two definition files, one behind the other. -/
def twoFiles : String := "\x7b\"types\":\x7b\x7d\x7d \x7b\"types\":\x7b\x7d\x7d"

/-- The second file is not noticed, though no input text may go on like this. -/
theorem DefinitionFile.read_twoFiles :
    DefinitionFile.read twoFiles = .ok ⟨[]⟩ ∧
      ∃ offset, Json.read twoFiles = .error ⟨.trailingText, offset, []⟩ := by
  have accepted : (DefinitionFile.read twoFiles).toOption.map (fun file => file.types.isEmpty) =
      some true := by
    decide +kernel
  have refused : (Json.read twoFiles).toOption.isSome = false := by
    decide +kernel
  obtain ⟨⟨types⟩, read, nothing⟩ := Option.map_eq_some_iff.mp accepted
  obtain rfl := List.isEmpty_iff.mp nothing
  rw [toOption_eq_some_iff] at read
  obtain ⟨document, rest, value, split, reads⟩ := DefinitionFile.exists_document read
  obtain ⟨_, offset, whole⟩ := reads rest
  rw [← split] at whole
  refine ⟨read, offset, ?_⟩
  -- The text is refused, so what stands behind its document is not blank.
  split at whole
  · rw [whole] at refused
    cases refused
  · exact whole

end JsonShape
