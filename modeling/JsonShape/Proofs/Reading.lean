/-
This file shows that no object that is read from a text holds a name twice: a name
that is written again replaces the content that stands under it. It follows the
readers from the members of one object (`readMembers_table`) to whole values
(`readValue_yields`) and to the definitions of a file (`DefinitionFile.read_distinct`), each
time from what is known of the reader of the parts.
-/

import JsonShape.Definition.Reader

namespace JsonShape

/-- Two steps succeed together if the first one does and the second one does with its result. -/
theorem bind_eq_ok_iff {Failure First Second : Type} {first : Except Failure First}
    {next : First → Except Failure Second} {result : Second} :
    (first >>= next) = .ok result ↔ ∃ value, first = .ok value ∧ next value = .ok result := by
  cases first <;> simp [bind, Except.bind]

/-- Two steps fail together if the first one does, or the second one does with its result. -/
theorem bind_eq_error_iff {Failure First Second : Type} {first : Except Failure First}
    {next : First → Except Failure Second} {failure : Failure} :
    (first >>= next) = .error failure ↔
      first = .error failure ∨ ∃ value, first = .ok value ∧ next value = .error failure := by
  cases first <;> simp [bind, Except.bind]

theorem pure_eq_ok_iff {Failure Result : Type} {value result : Result} :
    (pure value : Except Failure Result) = .ok result ↔ value = result := by
  simp [pure, Except.pure]

theorem pure_eq_error_iff {Failure Result : Type} {value : Result} {failure : Failure} :
    (pure value : Except Failure Result) = .error failure ↔ False := by
  simp [pure, Except.pure]

theorem toOption_eq_some_iff {Failure Result : Type} {outcome : Except Failure Result}
    {result : Result} : outcome.toOption = some result ↔ outcome = .ok result := by
  cases outcome <;> simp [Except.toOption]

/-- No object inside the value holds a name twice. -/
inductive Json.Distinct : Json → Prop
  | null : Distinct .null
  | bool (value : Bool) : Distinct (.bool value)
  | number (value : Number) : Distinct (.number value)
  | string (value : String) : Distinct (.string value)
  | array {items : List Json} (each : ∀ item ∈ items, Distinct item) : Distinct (.array items)
  | object {members : List (String × Json)} (names : (Table.keys members).Nodup)
      (each : ∀ entry ∈ members, Distinct entry.2) : Distinct (.object members)

/-- Everything that the reader reads has the property. -/
def Yields {Content : Type} (read : Reader Content) (Property : Content → Prop) : Prop :=
  ∀ cursor content rest, read cursor = .ok (content, rest) → Property content

/-- A table without repeated names whose contents all have the property. -/
def TableOf {Content : Type} (Property : Content → Prop) (table : Table Content) : Prop :=
  (Table.keys table).Nodup ∧ ∀ entry ∈ table, Property entry.2

/-! ### Items and members -/

theorem TableOf.insert {Content : Type} {Property : Content → Prop} {table : Table Content}
    (held : TableOf Property table) (key : String) {content : Content} (new : Property content) :
    TableOf Property (Table.insert table key content) := by
  refine ⟨Table.nodup_keys_insert table key content held.1, fun entry member => ?_⟩
  rcases Table.mem_insert member with rfl | old
  · exact new
  · exact held.2 entry old

/-- The items of an array have what the reader of an item gives. -/
theorem readItems_each {Item : Type} {Property : Item → Prop} {readItem : Reader Item}
    (yields : Yields readItem Property) (limit position : Nat) (cursor rest : Cursor)
    (items : List Item)
    (done : readItems readItem limit position cursor = .ok (items, rest)) :
    ∀ item ∈ items, Property item := by
  induction limit generalizing position cursor items rest with
  | zero => cases done
  | succ limit inductionHypothesis =>
    simp only [readItems, bind_eq_ok_iff] at done
    obtain ⟨next, _, done⟩ := done
    cases next with
    | none =>
      simp only [bind_eq_ok_iff, pure_eq_ok_iff, Prod.mk.injEq] at done
      obtain ⟨_, _, rfl, _⟩ := done
      exact List.forall_mem_nil _
    | some start =>
      cases read : readItem start with
      | error error => simp only [read, reduceCtorEq] at done
      | ok pair =>
        obtain ⟨item, after⟩ := pair
        simp only [read, bind_eq_ok_iff, pure_eq_ok_iff, Prod.mk.injEq] at done
        obtain ⟨⟨others, _⟩, remaining, rfl, _⟩ := done
        exact List.forall_mem_cons.mpr
          ⟨yields start item after read, inductionHypothesis _ after _ others remaining⟩

/-- Reading members into a table keeps it free of repeated names. -/
theorem readMembers_table {Content : Type} {Property : Content → Prop}
    {readContent : Reader Content} (yields : Yields readContent Property) (limit : Nat)
    (first : Bool) (table result : Table Content) (cursor rest : Cursor)
    (held : TableOf Property table)
    (done : readMembers readContent limit first table cursor = .ok (result, rest)) :
    TableOf Property result := by
  induction limit generalizing first table cursor with
  | zero => cases done
  | succ limit inductionHypothesis =>
    rw [readMembers] at done
    split at done
    · cases done
    · simp only [bind_eq_ok_iff, pure_eq_ok_iff, Prod.mk.injEq] at done
      obtain ⟨_, _, rfl, _⟩ := done
      exact held
    · rename_i key afterKey _
      simp only [bind_eq_ok_iff] at done
      obtain ⟨start, _, done⟩ := done
      cases read : readContent start with
      | error error => simp only [read, reduceCtorEq] at done
      | ok pair =>
        obtain ⟨content, after⟩ := pair
        simp only [read] at done
        exact inductionHypothesis false _ after
          (held.insert key (yields start content after read)) done

theorem readObject_yields {Content : Type} {Property : Content → Prop}
    {readContent : Reader Content} (yields : Yields readContent Property) :
    Yields (readObject readContent) (TableOf Property) :=
  fun cursor _ rest done => readMembers_table yields _ true [] _ cursor rest
    ⟨List.nodup_nil, List.forall_mem_nil _⟩ done

/-! ### Values -/

/-- A value is free of repeated names if those nested in it are. -/
theorem readValueWith_yields {nested : Option (Reader Json)}
    (yields : ∀ read, nested = some read → Yields read Json.Distinct) :
    Yields (readValueWith nested) Json.Distinct := by
  intro cursor value rest
  -- The cases that fail are closed at once; each of the others says what the value is made of.
  fun_cases readValueWith nested cursor <;> intro done <;>
    simp only [bind_eq_ok_iff, pure_eq_ok_iff, Prod.mk.injEq, reduceCtorEq] at done
  · obtain ⟨_, _, rfl, _⟩ := done
    exact .null
  · obtain ⟨_, _, rfl, _⟩ := done
    exact .bool true
  · obtain ⟨_, _, rfl, _⟩ := done
    exact .bool false
  · obtain ⟨⟨text, _⟩, _, rfl, _⟩ := done
    exact .string text
  · rename_i readNested
    obtain ⟨⟨items, after⟩, read, rfl, _⟩ := done
    exact .array (readItems_each (yields readNested rfl) _ _ _ after items read)
  · rename_i readNested
    obtain ⟨⟨members, after⟩, read, rfl, _⟩ := done
    have table := readObject_yields (yields readNested rfl) _ members after read
    exact .object table.1 table.2
  · obtain ⟨⟨number, _⟩, _, rfl, _⟩ := done
    exact .number number

theorem readValue_yields (levels : Nat) : Yields (readValue levels) Json.Distinct := by
  induction levels with
  | zero =>
    exact readValueWith_yields fun read equal => nomatch equal
  | succ levels inductionHypothesis =>
    refine readValueWith_yields fun read equal => ?_
    rw [← Option.some.inj equal]
    exact inductionHypothesis

/-- The value of a text is free of repeated names. -/
theorem Json.read_distinct {text : String} {value : Json} (done : Json.read text = .ok value) :
    value.Distinct := by
  simp only [Json.read, bind_eq_ok_iff] at done
  obtain ⟨⟨read, after⟩, valueRead, done⟩ := done
  split at done
  · rw [pure_eq_ok_iff] at done
    exact done ▸ readValue_yields nestingLimit _ read after valueRead
  · cases done

/-! ### Structures -/

/-- A property of drafts that every field keeps is kept by a structure written as an object. -/
theorem readNamedFields_keeps {Draft : Type} {Property : Draft → Prop}
    {fields : List (FieldReader Draft)}
    (keeps : ∀ field ∈ fields, ∀ draft, Property draft → Yields (field.read draft) Property)
    (limit : Nat) (first : Bool) (draft result : Draft) (cursor rest : Cursor)
    (held : Property draft)
    (done : readNamedFields fields limit first draft cursor = .ok (result, rest)) :
    Property result := by
  induction limit generalizing first draft cursor with
  | zero => cases done
  | succ limit inductionHypothesis =>
    rw [readNamedFields] at done
    split at done
    · cases done
    · simp only [Except.ok.injEq, Prod.mk.injEq] at done
      exact done.1 ▸ held
    · split at done
      · cases done
      · rename_i key afterKey _ field found
        split at done
        · cases done
        · simp only [bind_eq_ok_iff] at done
          obtain ⟨start, _, done⟩ := done
          cases read : field.read draft start with
          | error error => simp only [read, reduceCtorEq] at done
          | ok pair =>
            obtain ⟨next, after⟩ := pair
            simp only [read] at done
            have kept := keeps field (List.mem_of_find?_eq_some found) draft held start next after
              read
            exact inductionHypothesis false next after kept done

/-- A property of drafts that every field keeps is kept by a structure written as an array. -/
theorem readPlacedFields_keeps {Draft : Type} {Property : Draft → Prop}
    {fields : List (FieldReader Draft)}
    (keeps : ∀ field ∈ fields, ∀ draft, Property draft → Yields (field.read draft) Property)
    (position : Nat) (draft result : Draft) (cursor rest : Cursor) (held : Property draft)
    (done : readPlacedFields fields position draft cursor = .ok (result, rest)) :
    Property result := by
  induction fields generalizing position draft cursor with
  | nil =>
    simp only [readPlacedFields, Except.ok.injEq, Prod.mk.injEq] at done
    exact done.1 ▸ held
  | cons field fields inductionHypothesis =>
    obtain ⟨first, others⟩ := List.forall_mem_cons.mp keeps
    rw [readPlacedFields] at done
    split at done
    · cases done
    · simp only [Except.ok.injEq, Prod.mk.injEq] at done
      exact done.1 ▸ held
    · rename_i start _
      cases read : field.read draft start with
      | error error => simp only [read, reduceCtorEq] at done
      | ok pair =>
        obtain ⟨next, after⟩ := pair
        simp only [read] at done
        exact inductionHypothesis others (position + 1) next after
          (first draft held start next after read) done

/-- A structure is finished from a draft with the property that its fields keep. -/
theorem readStructure_yields {Draft Result : Type} (Property : Draft → Prop)
    {Finished : Result → Prop} {wanted : Wanted} {fields : List (FieldReader Draft)}
    {empty : Draft} {finish : Bool → Draft → Except Fault Result} (held : Property empty)
    (keeps : ∀ field ∈ fields, ∀ draft, Property draft → Yields (field.read draft) Property)
    (finishes : ∀ placed draft result, Property draft → finish placed draft = .ok result →
      Finished result) :
    Yields (readStructure wanted fields empty finish) Finished := by
  intro cursor result rest done
  simp only [readStructure] at done
  split at done
  · cases done
  · simp only [bind_eq_ok_iff] at done
    obtain ⟨⟨draft, after⟩, read, done⟩ := done
    split at done
    · cases done
    · rename_i finished equal
      simp only [bind_eq_ok_iff, pure_eq_ok_iff, Prod.mk.injEq] at done
      obtain ⟨_, _, rfl, _⟩ := done
      exact finishes false draft finished
        (readNamedFields_keeps keeps _ true empty draft _ after held read) equal
  · simp only [bind_eq_ok_iff] at done
    obtain ⟨⟨draft, after⟩, read, done⟩ := done
    split at done
    · cases done
    · rename_i finished equal
      simp only [bind_eq_ok_iff, pure_eq_ok_iff, Prod.mk.injEq] at done
      obtain ⟨_, _, rfl, _⟩ := done
      exact finishes true draft finished
        (readPlacedFields_keeps keeps 0 empty draft _ after held read) equal
  · cases done

/-! ### Definitions -/

/-- The fields of a declared record or union hold no name twice, at any depth. -/
def Declaration.Distinct : Declaration → Prop
  | .data spec => spec.Distinct
  | .union spec => spec.Distinct
  | .refine _ => True

theorem readDeclared_yields (word : String) : Yields (readDeclared word) Declaration.Distinct := by
  intro cursor declaration rest done
  unfold readDeclared at done
  split at done
  · simp only [bind_eq_ok_iff, pure_eq_ok_iff, Prod.mk.injEq] at done
    obtain ⟨⟨spec, after⟩, read, rfl, _⟩ := done
    exact readValue_yields specLevels _ spec after read
  · split at done
    · simp only [bind_eq_ok_iff, pure_eq_ok_iff, Prod.mk.injEq] at done
      obtain ⟨⟨spec, after⟩, read, rfl, _⟩ := done
      exact readValue_yields specLevels _ spec after read
    · simp only [bind_eq_ok_iff, pure_eq_ok_iff, Prod.mk.injEq] at done
      obtain ⟨⟨refinement, after⟩, _, rfl, _⟩ := done
      trivial

theorem readDeclaration_yields : Yields readDeclaration Declaration.Distinct := by
  intro cursor declaration rest
  fun_cases readDeclaration cursor <;> intro done <;>
    simp only [bind_eq_ok_iff, reduceCtorEq, and_false] at done
  · exact done.elim fun _ impossible => impossible.elim
  · obtain ⟨⟨word, afterWord⟩, _, start, _, done⟩ := done
    cases read : readDeclared word start with
    | error error => simp only [read, reduceCtorEq] at done
    | ok pair =>
      obtain ⟨declared, after⟩ := pair
      simp only [read, bind_eq_ok_iff, pure_eq_ok_iff, Prod.mk.injEq] at done
      obtain ⟨_, _, rfl, _⟩ := done
      exact readDeclared_yields word start declared after read

theorem readDeclarations_yields : Yields readDeclarations (TableOf Declaration.Distinct) := by
  intro cursor table rest done
  simp only [readDeclarations] at done
  split at done
  · cases done
  · exact readObject_yields readDeclaration_yields _ table rest done
  · cases done

/-- No name is declared twice in a definition file, and none of its records and unions holds a
field twice. -/
theorem DefinitionFile.read_distinct {text : String} {file : DefinitionFile}
    (done : DefinitionFile.read text = .ok file) : TableOf Declaration.Distinct file.types := by
  have yields : Yields readFile fun file => TableOf Declaration.Distinct file.types := by
    refine readStructure_yields (fun draft => TableOf Declaration.Distinct (draft.getD []))
      ?_ ?_ ?_
    · exact ⟨List.nodup_nil, List.forall_mem_nil _⟩
    · intro field member draft _ cursor result rest read
      obtain rfl := List.mem_singleton.mp member
      simp only [bind_eq_ok_iff, pure_eq_ok_iff, Prod.mk.injEq] at read
      obtain ⟨⟨table, after⟩, declared, rfl, _⟩ := read
      exact readDeclarations_yields cursor table after declared
    · intro _ draft finished held equal
      exact Except.ok.inj equal ▸ held
  unfold DefinitionFile.read at done
  split at done
  · rename_i read _ equal
    exact Except.ok.inj done ▸ yields _ read _ equal
  · cases done

end JsonShape
