/-
This file says what becomes of a name that is declared more than once in a text. The
reader writes each declaration into a table, and writing under a known name replaces what
stands there. `DefinitionFile.written?` lists the declarations as they are written
instead, with nothing replaced, and reading is the same as listing and then writing the
list into a table (`DefinitionFile.read_eq_ok_iff`). So the last declaration of a name
counts, at the place of the first one, and no other declaration of the name is looked at
when the text is loaded (`loadText_written`).
-/

import JsonShape.Pattern.Basic
import JsonShape.Proofs.Declaring
import Mathlib.Data.List.Forall2
import Mathlib.Data.List.Induction

namespace JsonShape

/-! ### Members as they are written -/

/-- The members of an object in the order in which they are written, repeated names included. -/
def listMembers {Content : Type} (readContent : Reader Content) :
    Nat → Bool → Cursor → Except ReadError (List (String × Content) × Cursor)
  | 0, _, cursor => .error (cursor.errorHere .endInObject)
  | limit + 1, first, cursor =>
      match nextKey? first cursor with
      | .error error => .error (error.within .unknown)
      | .ok none => do return ([], ← closeObject cursor)
      | .ok (some (key, cursor)) => do
          let cursor ← cursor.readColon
          match readContent cursor with
          | .error error => .error (error.within (.key key))
          | .ok (content, cursor) => do
              let (others, cursor) ← listMembers readContent limit false cursor
              return ((key, content) :: others, cursor)

/-- The members of an object behind its brace, as they are written. -/
def listObject {Content : Type} (readContent : Reader Content) (cursor : Cursor) :
    Except ReadError (List (String × Content) × Cursor) :=
  listMembers readContent (cursor.rest.length + 1) true cursor

/-- Members are read by listing them and writing the list into the table. -/
theorem readMembers_eq_map {Content : Type} (readContent : Reader Content) (limit : Nat)
    (first : Bool) (table : Table Content) (cursor : Cursor) :
    readMembers readContent limit first table cursor =
      (listMembers readContent limit first cursor).map fun listed =>
        (listed.1.foldl (fun table entry => Table.insert table entry.1 entry.2) table,
          listed.2) := by
  induction limit generalizing first table cursor with
  | zero => rfl
  | succ limit inductionHypothesis =>
    rw [readMembers, listMembers]
    cases nextKey? first cursor with
    | error error => rfl
    | ok next =>
      obtain _ | ⟨key, afterKey⟩ := next
      · cases closeObject cursor <;> rfl
      · cases colon : afterKey.readColon with
        | error error => simp only [colon, bind, Except.bind, Except.map]
        | ok start =>
          cases read : readContent start with
          | error error => simp only [colon, read, bind, Except.bind, Except.map]
          | ok pair =>
            obtain ⟨content, after⟩ := pair
            simp only [colon, read, inductionHypothesis, bind, Except.bind]
            cases listMembers readContent limit false after <;> rfl

theorem readObject_eq_map {Content : Type} (readContent : Reader Content) (cursor : Cursor) :
    readObject readContent cursor =
      (listObject readContent cursor).map fun listed => (Table.ofList listed.1, listed.2) :=
  readMembers_eq_map readContent _ true [] cursor

/-! ### Structures over other drafts -/

section Drafts

variable {Draft Other : Type} {change : Draft → Other} {fields : List (FieldReader Draft)}
  {others : List (FieldReader Other)}

/-- The second field reads into changed drafts what the first one reads into drafts. -/
structure FieldReader.Maps (change : Draft → Other) (field : FieldReader Draft)
    (other : FieldReader Other) : Prop where
  name : field.name = other.name
  present : ∀ draft, other.present (change draft) = field.present draft
  read : ∀ draft cursor, other.read (change draft) cursor =
    (field.read draft cursor).map fun read => (change read.1, read.2)

/-- Under a key there is a field in both lists or in neither. -/
theorem find?_maps (maps : List.Forall₂ (FieldReader.Maps change) fields others) (key : String) :
    Option.Rel (FieldReader.Maps change) (fields.find? fun field => field.name == key)
      (others.find? fun field => field.name == key) := by
  induction maps with
  | nil => exact .none
  | @cons field other fields others first _ inductionHypothesis =>
    rw [List.find?_cons, List.find?_cons, ← first.name]
    cases field.name == key with
    | true => exact .some first
    | false => exact inductionHypothesis

theorem names_eq_of_maps (maps : List.Forall₂ (FieldReader.Maps change) fields others) :
    fields.map FieldReader.name = others.map FieldReader.name := by
  induction maps with
  | nil => rfl
  | cons first _ inductionHypothesis =>
    rw [List.map_cons, List.map_cons, first.name, inductionHypothesis]

theorem readNamedFields_map (maps : List.Forall₂ (FieldReader.Maps change) fields others)
    (limit : Nat) (first : Bool) (draft : Draft) (cursor : Cursor) :
    readNamedFields others limit first (change draft) cursor =
      (readNamedFields fields limit first draft cursor).map fun read =>
        (change read.1, read.2) := by
  induction limit generalizing first draft cursor with
  | zero => rfl
  | succ limit inductionHypothesis =>
    rw [readNamedFields, readNamedFields]
    cases nextKey? first cursor with
    | error error => rfl
    | ok next =>
      obtain _ | ⟨key, afterKey⟩ := next
      · rfl
      · have both := find?_maps maps key
        simp only [← names_eq_of_maps maps]
        generalize (fields.find? fun field => field.name == key) = found at both ⊢
        generalize (others.find? fun field => field.name == key) = foundOther at both ⊢
        cases both with
        | none => rfl
        | some maps =>
          simp only [maps.present]
          split
          · rfl
          · cases colon : afterKey.readColon with
            | error error => rfl
            | ok start =>
              simp only [bind, Except.bind, maps.read]
              cases FieldReader.read _ draft start with
              | error error => rfl
              | ok pair => exact inductionHypothesis false pair.1 pair.2

theorem readPlacedFields_map (maps : List.Forall₂ (FieldReader.Maps change) fields others)
    (position : Nat) (draft : Draft) (cursor : Cursor) :
    readPlacedFields others position (change draft) cursor =
      (readPlacedFields fields position draft cursor).map fun read => (change read.1, read.2) := by
  induction maps generalizing position draft cursor with
  | nil => rfl
  | cons first _ inductionHypothesis =>
    rw [readPlacedFields, readPlacedFields]
    cases nextItem? (position == 0) cursor with
    | error error => rfl
    | ok next =>
      cases next with
      | none => rfl
      | some start =>
        simp only [first.read]
        cases read : FieldReader.read _ draft start with
        | error error => rfl
        | ok pair => exact inductionHypothesis (position + 1) pair.1 pair.2

/-- A structure that is read from changed drafts ends in the change of what is read from drafts. -/
theorem readStructure_map {Result Final : Type} {wanted : Wanted}
    {finish : Bool → Draft → Except Fault Result} {finishOther : Bool → Other → Except Fault Final}
    (empty : Draft) (complete : Result → Final)
    (maps : List.Forall₂ (FieldReader.Maps change) fields others)
    (finishes : ∀ placed draft,
      finishOther placed (change draft) = (finish placed draft).map complete) (cursor : Cursor) :
    readStructure wanted others (change empty) finishOther cursor =
      (readStructure wanted fields empty finish cursor).map fun read =>
        (complete read.1, read.2) := by
  simp only [readStructure]
  generalize cursor.skipSpaces = inside
  obtain ⟨text, offset⟩ := inside
  split
  · rfl
  · simp only [readNamedFields_map maps]
    cases readNamedFields fields _ true empty _ with
    | error error => rfl
    | ok pair =>
      simp only [bind, Except.bind, Except.map, finishes]
      cases finish false pair.1 with
      | error fault => rfl
      | ok result => cases closeObject pair.2 <;> rfl
  · simp only [readPlacedFields_map maps]
    cases readPlacedFields fields 0 empty _ with
    | error error => rfl
    | ok pair =>
      simp only [bind, Except.bind, Except.map, finishes]
      cases finish true pair.1 with
      | error fault => rfl
      | ok result => cases closeArray pair.2 <;> rfl
  · rfl

end Drafts

/-! ### Declarations as they are written -/

/-- The declarations of a text in the order in which they are written, repeated names included. -/
def listDeclarations (cursor : Cursor) :
    Except ReadError (List (String × Declaration) × Cursor) :=
  let cursor := cursor.skipSpaces
  match cursor.rest with
  | [] => .error (cursor.errorHere .endInValue)
  | '\x7b' :: _ => listObject readDeclaration (cursor.skip 1)
  | _ => .error (mismatchAt .map cursor)

/-- The only field of a definition file, with the declarations as they are written. -/
def writtenFields : List (FieldReader (Option (List (String × Declaration)))) :=
  [⟨"types", Option.isSome, fun _ cursor => do
    let (types, cursor) ← listDeclarations cursor
    return (some types, cursor)⟩]

/-- The declarations of the definition file at the beginning of a text, as they are written. -/
def DefinitionFile.written? (text : String) : Option (List (String × Declaration)) :=
  (readStructure .definitionFile writtenFields none (fun _ draft => .ok (draft.getD []))
    (Cursor.ofString text)).toOption.map Prod.fst

theorem readDeclarations_eq_map (cursor : Cursor) :
    readDeclarations cursor =
      (listDeclarations cursor).map fun listed => (Table.ofList listed.1, listed.2) := by
  simp only [readDeclarations, listDeclarations]
  generalize cursor.skipSpaces = inside
  obtain ⟨text, offset⟩ := inside
  cases text with
  | nil => rfl
  | cons first rest =>
    by_cases brace : first = '\x7b'
    · subst brace
      exact readObject_eq_map readDeclaration _
    · simp [brace, Except.map]

theorem writtenFields_maps :
    List.Forall₂ (FieldReader.Maps (Option.map Table.ofList)) writtenFields fileFields := by
  refine .cons ⟨rfl, fun draft => ?_, fun draft cursor => ?_⟩ .nil
  · exact Option.isSome_map
  · simp only [readDeclarations_eq_map]
    cases listDeclarations cursor <;> rfl

theorem readFile_eq_map (cursor : Cursor) :
    readFile cursor =
      (readStructure .definitionFile writtenFields none (fun _ draft => .ok (draft.getD []))
        cursor).map fun listed => (⟨Table.ofList listed.1⟩, listed.2) := by
  refine readStructure_map none (fun listed => DefinitionFile.mk (Table.ofList listed))
    writtenFields_maps (fun _ draft => ?_) cursor
  cases draft <;> rfl

/-- To read a definition file is to write the declarations of the text into a table one after the
other. -/
theorem DefinitionFile.read_eq_ok_iff {text : String} {file : DefinitionFile} :
    DefinitionFile.read text = .ok file ↔
      ∃ written, DefinitionFile.written? text = some written ∧ file = ⟨Table.ofList written⟩ := by
  rw [DefinitionFile.read, DefinitionFile.written?, readFile_eq_map]
  cases readStructure .definitionFile writtenFields none _ (Cursor.ofString text) with
  | error error => simp [Except.map, Except.toOption]
  | ok listed => simp [Except.map, Except.toOption, eq_comm]

/-! ### Repeated names -/

namespace Table

variable {Content : Type}

theorem ofList_concat (entries : List (String × Content)) (entry : String × Content) :
    ofList (entries ++ [entry]) = insert (ofList entries) entry.1 entry.2 :=
  List.foldl_concat ..

theorem nodup_keys_ofList (entries : List (String × Content)) : (keys (ofList entries)).Nodup := by
  induction entries using List.reverseRecOn with
  | nil => exact List.nodup_nil
  | append_singleton entries entry inductionHypothesis =>
    rw [ofList_concat]
    exact nodup_keys_insert _ _ _ inductionHypothesis

/-- A table holds each name that was written at the place where it was written first. -/
theorem keys_ofList (entries : List (String × Content)) :
    keys (ofList entries) = (keys entries).eraseDups := by
  induction entries using List.reverseRecOn with
  | nil => rfl
  | append_singleton entries entry inductionHypothesis =>
    have single : keys [entry] = [entry.1] := rfl
    rw [ofList_concat, keys_insert, keys_append, List.eraseDups_append, single]
    by_cases known : entry.1 ∈ keys entries
    · simp [known, List.removeAll, inductionHypothesis]
    · simp [known, List.removeAll, inductionHypothesis, List.eraseDups_cons]

/-- What is written under a name counts for nothing if the name is written again. -/
theorem ofList_replaced {earlier later : List (String × Content)} {name : String}
    (again : name ∈ keys later) (first second : Content) :
    ofList (earlier ++ (name, first) :: later) = ofList (earlier ++ (name, second) :: later) := by
  refine eq_of_find? (nodup_keys_ofList _) ?_ fun key _ => ?_
  · rw [keys_ofList, keys_ofList, keys_append, keys_append]
    rfl
  · rw [find?_ofList, find?_ofList, List.reverse_append, List.reverse_append, List.reverse_cons,
      List.reverse_cons, find?_append, find?_append, find?_append, find?_append]
    by_cases same : name = key
    · have reversed : key ∈ keys later.reverse := by
        rw [keys, List.map_reverse, List.mem_reverse]
        exact same ▸ again
      obtain ⟨content, found⟩ := exists_find?_of_mem_keys reversed
      rw [found]
      rfl
    · simp [find?, same]

end Table

/-- A text is loaded as the table into which its declarations are written. The table has each name
once, at the place where it is declared first, and under it what is declared last. A declaration
that is followed by another one of its name may therefore be replaced by any other, and whether it
could have been loaded makes no difference. -/
theorem Registry.loadText_written {text : String} {written : List (String × Declaration)}
    (lists : DefinitionFile.written? text = some written) :
    (∀ (engine : PatternEngine) (registry : Registry) (supply : Supply),
      registry.loadText engine text supply = registry.load engine ⟨Table.ofList written⟩ supply) ∧
    Table.keys (Table.ofList written) = (Table.keys written).eraseDups ∧
    (∀ name, Table.find? (Table.ofList written) name = Table.find? written.reverse name) ∧
    ∀ earlier name declaration later, written = earlier ++ (name, declaration) :: later →
      name ∈ Table.keys later →
        ∀ other (engine : PatternEngine) (registry : Registry) (supply : Supply),
          registry.loadText engine text supply =
            registry.load engine ⟨Table.ofList (earlier ++ (name, other) :: later)⟩ supply := by
  have read : DefinitionFile.read text = .ok ⟨Table.ofList written⟩ :=
    DefinitionFile.read_eq_ok_iff.mpr ⟨written, lists, rfl⟩
  have loads : ∀ (engine : PatternEngine) (registry : Registry) (supply : Supply),
      registry.loadText engine text supply =
        registry.load engine ⟨Table.ofList written⟩ supply := by
    intro engine registry supply
    rw [loadText, read]
    rfl
  refine ⟨loads, Table.keys_ofList written, Table.find?_ofList written, ?_⟩
  rintro earlier name declaration later rfl again other engine registry supply
  rw [loads, Table.ofList_replaced again declaration other]

/-- A text that declares a name twice. What it declares first has a base that is unknown. -/
def twice : String :=
  "\x7b\"types\":\x7b\"A\":\x7b\"refine\":\x7b\"base\":\"B\"\x7d\x7d,
\"A\":\x7b\"refine\":\x7b\"base\":\"String\"\x7d\x7d\x7d\x7d"

/-- A refinement that adds nothing to its base. -/
def plainRefinement (base : String) : Declaration := .refine ⟨base, none, none, none⟩

theorem written?_twice :
    DefinitionFile.written? twice =
      some [("A", plainRefinement "B"), ("A", plainRefinement "String")] := by
  rfl

/-- The first declaration could as well be missing. -/
theorem Registry.loadText_written_twice :
    let written := [("A", plainRefinement "B"), ("A", plainRefinement "String")]
    DefinitionFile.written? twice = some written ∧
      (∀ (engine : PatternEngine) (registry : Registry) (supply : Supply),
        registry.loadText engine twice supply =
          registry.load engine ⟨[("A", plainRefinement "String")]⟩ supply) ∧
      "A" ∈ Table.keys [("A", plainRefinement "String")] ∧
      ∀ other (engine : PatternEngine) (registry : Registry) (supply : Supply),
        registry.loadText engine twice supply =
          registry.load engine ⟨Table.ofList [("A", other), ("A", plainRefinement "String")]⟩
            supply := by
  intro written
  obtain ⟨loads, _, _, replaced⟩ := loadText_written written?_twice
  have again : "A" ∈ Table.keys [("A", plainRefinement "String")] := List.mem_singleton_self _
  exact ⟨written?_twice, loads, again, replaced [] "A" _ _ rfl again⟩

/-- A text that declares a name twice is loaded, although nothing could be made of what it declares
first. -/
theorem Registry.exists_loadText_twice :
    ∃ written loaded, DefinitionFile.written? twice = some written ∧
      Table.keys written = ["A", "A"] ∧
      (∃ error, standard.load Pattern.engine ⟨written.take 1⟩ .full = .error error) ∧
      standard.loadText Pattern.engine twice .full = .ok loaded ∧ loaded.names = ["A"] := by
  have run : (standard.loadText Pattern.engine twice .full).toOption.map Loaded.names =
      some ["A"] := by
    decide +kernel
  obtain ⟨loaded, done, names⟩ := Option.map_eq_some_iff.mp run
  exact ⟨_, loaded, written?_twice, rfl, ⟨_, rfl⟩, toOption_eq_some_iff.mp done, names⟩

end JsonShape
