/-
This file holds ordered tables: entries with a name, in the order in which the
names first appeared. JSON objects, the fields of a record, the variants of a
union and the entries of a registry are all ordered tables. Writing under a
known name keeps the entry's place and replaces its content, so a table built by
`insert` never holds a name twice (`nodup_keys_insert`).
-/

namespace JsonShape

/-- Named entries in the order of their first appearance. -/
abbrev Table (Content : Type) := List (String × Content)

namespace Table

variable {Content : Type}

/-- The names of a table, in order. -/
def keys (table : Table Content) : List String := table.map Prod.fst

/-- The content under a name: the first one, should the name occur twice. -/
def find? : Table Content → String → Option Content
  | [], _ => none
  | (name, content) :: rest, key => if name = key then some content else find? rest key

/-- Whether a name occurs in the table. -/
def has (table : Table Content) (key : String) : Bool := (find? table key).isSome

/-- Writes a content under a name: in the name's place if it has one, otherwise at the end. -/
def insert : Table Content → String → Content → Table Content
  | [], key, content => [(key, content)]
  | (name, old) :: rest, key, content =>
      if name = key then (name, content) :: rest else (name, old) :: insert rest key content

/-- The table that results from writing the entries one after the other. -/
def ofList (entries : List (String × Content)) : Table Content :=
  entries.foldl (fun table entry => insert table entry.1 entry.2) []

/-! ### Looking up what was written -/

@[simp] theorem find?_nil (key : String) : find? ([] : Table Content) key = none := rfl

theorem find?_insert_self (table : Table Content) (key : String) (content : Content) :
    find? (insert table key content) key = some content := by
  induction table with
  | nil => simp [insert, find?]
  | cons entry rest inductionHypothesis =>
    by_cases same : entry.1 = key <;> simp [insert, find?, same, inductionHypothesis]

theorem find?_insert_other (table : Table Content) (key other : String) (content : Content)
    (different : key ≠ other) : find? (insert table key content) other = find? table other := by
  induction table with
  | nil => simp [insert, find?, different]
  | cons entry rest inductionHypothesis =>
    by_cases same : entry.1 = key
    · simp [insert, find?, same, different]
    · simp [insert, find?, same, inductionHypothesis]

/-- A name has a content exactly if it is among the keys. -/
theorem find?_eq_none_iff (table : Table Content) (key : String) :
    find? table key = none ↔ key ∉ keys table := by
  induction table with
  | nil => simp [keys]
  | cons entry rest inductionHypothesis =>
    by_cases same : entry.1 = key
    · simp [find?, keys, same]
    · have different : ¬ key = entry.1 := fun equal => same equal.symm
      simp only [find?, same, if_false, inductionHypothesis, keys, List.map_cons, List.mem_cons,
        different, false_or]

/-- A name among the keys has a content. -/
theorem exists_find?_of_mem_keys {table : Table Content} {key : String}
    (member : key ∈ keys table) : ∃ content, find? table key = some content := by
  cases found : find? table key with
  | some content => exact ⟨content, rfl⟩
  | none => exact absurd member ((find?_eq_none_iff table key).mp found)

/-- What is found under a name stands in the table. -/
theorem mem_of_find? {table : Table Content} {key : String} {content : Content}
    (found : find? table key = some content) : (key, content) ∈ table := by
  induction table with
  | nil => cases found
  | cons entry rest inductionHypothesis =>
    by_cases same : entry.1 = key
    · simp only [find?, same, if_true, Option.some.injEq] at found
      exact List.mem_cons.mpr (Or.inl (Prod.ext same.symm found.symm))
    · simp only [find?, same, if_false] at found
      exact List.mem_cons_of_mem _ (inductionHypothesis found)

theorem mem_keys_of_find? {table : Table Content} {key : String} {content : Content}
    (found : find? table key = some content) : key ∈ keys table :=
  List.mem_map_of_mem (mem_of_find? found)

/-- In a table that holds no name twice, every entry is found under its name. -/
theorem find?_of_mem {table : Table Content} (distinct : (keys table).Nodup)
    {entry : String × Content} (member : entry ∈ table) :
    find? table entry.1 = some entry.2 := by
  induction table with
  | nil => cases member
  | cons head rest inductionHypothesis =>
    have parts := List.nodup_cons.mp distinct
    rcases List.mem_cons.mp member with rfl | inRest
    · simp [find?]
    · have different : head.1 ≠ entry.1 := fun same =>
        parts.1 (same ▸ List.mem_map_of_mem inRest)
      simp only [find?, different, if_false]
      exact inductionHypothesis parts.2 inRest

/-- Two tables without repeated names are equal if they hold the same names in the same order and
the same content under each of them. -/
theorem eq_of_find? {first second : Table Content} (distinct : (keys first).Nodup)
    (names : keys first = keys second)
    (each : ∀ key ∈ keys first, find? first key = find? second key) : first = second := by
  induction first generalizing second with
  | nil => exact (List.map_eq_nil_iff.mp names.symm).symm
  | cons entry rest inductionHypothesis =>
    cases second with
    | nil => cases names
    | cons other others =>
      obtain ⟨sameName, restNames⟩ := List.cons.inj names
      obtain ⟨absent, restDistinct⟩ := List.nodup_cons.mp distinct
      have sameContent : entry.2 = other.2 := by
        have found := each entry.1 List.mem_cons_self
        simpa [find?, sameName] using found
      have sameRest : rest = others := by
        refine inductionHypothesis restDistinct restNames fun key member => ?_
        have different : ¬ entry.1 = key := fun same => absent (same ▸ member)
        have found := each key (List.mem_cons_of_mem _ member)
        simpa only [find?, different, sameName ▸ different, if_false] using found
      rw [sameRest, Prod.ext sameName sameContent]

theorem keys_append (first second : Table Content) :
    keys (first ++ second) = keys first ++ keys second :=
  List.map_append

theorem find?_append (first second : Table Content) (key : String) :
    find? (first ++ second) key = (find? first key).or (find? second key) := by
  induction first with
  | nil => rfl
  | cons entry rest inductionHypothesis =>
    by_cases same : entry.1 = key
    · simp [find?, same]
    · simp [find?, same, inductionHypothesis]

/-- Of the entries that are written under a name, the last one counts, and before all of them what
the table held already. -/
theorem find?_foldl_insert (entries : List (String × Content)) (table : Table Content)
    (key : String) :
    find? (entries.foldl (fun table entry => insert table entry.1 entry.2) table) key =
      (find? entries.reverse key).or (find? table key) := by
  induction entries generalizing table with
  | nil => rfl
  | cons entry rest inductionHypothesis =>
    have written : find? (insert table entry.1 entry.2) key =
        (find? [entry] key).or (find? table key) := by
      by_cases same : entry.1 = key
      · rw [← same, find?_insert_self]
        simp [find?]
      · rw [find?_insert_other _ _ _ _ same]
        simp [find?, same]
    rw [List.foldl_cons, inductionHypothesis, written, List.reverse_cons, find?_append,
      Option.or_assoc]

theorem find?_ofList (entries : List (String × Content)) (key : String) :
    find? (ofList entries) key = find? entries.reverse key := by
  rw [ofList, find?_foldl_insert, find?_nil, Option.or_none]

/-- Writing adds nothing but the entry that is written. -/
theorem mem_insert {table : Table Content} {key : String} {content : Content}
    {entry : String × Content} (member : entry ∈ insert table key content) :
    entry = (key, content) ∨ entry ∈ table := by
  induction table with
  | nil => exact Or.inl (List.mem_singleton.mp member)
  | cons head rest inductionHypothesis =>
    by_cases same : head.1 = key
    · simp only [insert, same, if_true, List.mem_cons] at member
      exact member.imp_right (List.mem_cons_of_mem _)
    · simp only [insert, same, if_false, List.mem_cons] at member
      rcases member with equal | inRest
      · exact Or.inr (List.mem_cons.mpr (Or.inl equal))
      · exact (inductionHypothesis inRest).imp_right (List.mem_cons_of_mem _)

/-- A known name keeps its place; a new one comes last. -/
theorem keys_insert (table : Table Content) (key : String) (content : Content) :
    keys (insert table key content) =
      if key ∈ keys table then keys table else keys table ++ [key] := by
  induction table with
  | nil => simp [insert, keys]
  | cons entry rest inductionHypothesis =>
    by_cases same : entry.1 = key
    · simp [insert, keys, same]
    · have different : ¬ key = entry.1 := fun equal => same equal.symm
      have inductionKeys := inductionHypothesis
      simp only [keys] at inductionKeys
      by_cases member : key ∈ keys rest
      · simp only [keys] at member
        simp [insert, keys, same, inductionKeys, different, member]
      · simp only [keys] at member
        simp [insert, keys, same, inductionKeys, different, member]

/-- Writing never makes a name occur twice. -/
theorem nodup_keys_insert (table : Table Content) (key : String) (content : Content)
    (distinct : (keys table).Nodup) : (keys (insert table key content)).Nodup := by
  rw [keys_insert]
  split
  · exact distinct
  · rename_i absent
    rw [List.nodup_append]
    refine ⟨distinct, by simp, ?_⟩
    intro first firstMember second secondMember equal
    simp only [List.mem_singleton] at secondMember
    exact absent (secondMember ▸ equal ▸ firstMember)

end Table

end JsonShape
