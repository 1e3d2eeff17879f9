/-
This file says which definition files can be loaded. A declaration is made in a scope:
the names that are registered, and those of the declarations before it. It is made
exactly if its name is new, its body refers to names of the scope alone and gives no
blank names (`Declaration.Admissible`), and a file is loaded exactly if each of its
declarations is made in its turn (`load_iff_admissible`).

The body of a record or union passes through two routines, one that reads the JSON and
looks names up, and one that makes descriptors and refuses blank names. Each goes
through the nested mappings on its own, so what they ask is put together for one
mapping at a time (`resolvesEach_iff`), and a value then follows by induction over its
form. Only the name of the declaration itself can be refused as a blank owner, because
the name of a nested mapping is never blank.
-/

import JsonShape.Proofs.Calls

namespace JsonShape

/-! ### Scopes -/

/-- The value declares a field in a scope: it is a name of the scope, or a mapping of names that are
not blank to values that declare fields. -/
inductive Json.DeclaresField (scope : List String) : Json → Prop
  | known {name : String} (member : name ∈ scope) : DeclaresField scope (.string name)
  | nested {members : List (String × Json)} (keys : ∀ member ∈ members, blank member.1 = false)
      (each : ∀ member ∈ members, DeclaresField scope member.2) :
      DeclaresField scope (.object members)

/-- The declaration can be made under the name in a scope. Bounds are compared as the numbers that
they are. -/
inductive Declaration.Admissible (engine : PatternEngine) (scope : List String) (name : String) :
    Declaration → Prop
  | data {members : List (String × Json)} (named : blank name = false)
      (fields : (Json.object members).DeclaresField scope) :
      Admissible engine scope name (.data (.object members))
  | union {members : List (String × Json)} (named : blank name = false) (nonempty : members ≠ [])
      (payloads : (Json.object members).DeclaresField scope) :
      Admissible engine scope name (.union (.object members))
  | refine {refinement : Refinement} (base : refinement.base ∈ scope)
      (compiles : ∀ source, refinement.pattern = some source →
        ∃ pattern, engine.compile source = .ok pattern)
      (ordered : ∀ minimum maximum, refinement.minimum = some minimum →
        refinement.maximum = some maximum → minimum.signedUnits ≤ maximum.signedUnits) :
      Admissible engine scope name (.refine refinement)

/-- Each of the declarations has a new name and can be made in its turn, when the names of those
before it have joined the scope. -/
def AdmissibleInTurn (engine : PatternEngine) (scope : List String)
    (declarations : List (String × Declaration)) : Prop :=
  ∀ earlier name declaration later, declarations = earlier ++ (name, declaration) :: later →
    name ∉ scope ++ Table.keys earlier ∧
      declaration.Admissible engine (scope ++ Table.keys earlier) name

variable {engine : PatternEngine}

/-- The name stands in the value where a type is expected. -/
inductive Json.RefersTo (name : String) : Json → Prop
  | here : RefersTo name (.string name)
  | inside {members : List (String × Json)} {member : String × Json} (entry : member ∈ members)
      (deeper : RefersTo name member.2) : RefersTo name (.object members)

/-- The declaration refers to the name, as to the type of a field or as to a base. -/
inductive Declaration.RefersTo (name : String) : Declaration → Prop
  | data {spec : Json} (refers : spec.RefersTo name) : RefersTo name (.data spec)
  | union {spec : Json} (refers : spec.RefersTo name) : RefersTo name (.union spec)
  | refine {refinement : Refinement} (base : refinement.base = name) :
      RefersTo name (.refine refinement)

theorem Json.declaresField_object_iff {scope : List String} {members : List (String × Json)} :
    (Json.object members).DeclaresField scope ↔
      ∀ member ∈ members, blank member.1 = false ∧ member.2.DeclaresField scope := by
  constructor
  · rintro (_ | ⟨keys, each⟩)
    exact fun member entry => ⟨keys member entry, each member entry⟩
  · intro both
    exact .nested (fun member entry => (both member entry).1)
      fun member entry => (both member entry).2

/-- Whatever a field is declared by is in the scope. -/
theorem Json.DeclaresField.mem_of_refersTo {scope : List String} {spec : Json}
    (declares : spec.DeclaresField scope) {name : String} (refers : spec.RefersTo name) :
    name ∈ scope := by
  induction refers with
  | here =>
    cases declares with
    | known member => exact member
  | inside entry _ inductionHypothesis =>
    exact inductionHypothesis (declaresField_object_iff.mp declares _ entry).2

theorem Declaration.Admissible.mem_of_refersTo {scope : List String} {name other : String}
    {declaration : Declaration} (admissible : declaration.Admissible engine scope name)
    (refers : declaration.RefersTo other) : other ∈ scope := by
  cases refers with
  | data refers =>
    cases admissible with
    | data _ fields => exact fields.mem_of_refersTo refers
  | union refers =>
    cases admissible with
    | union _ _ payloads => exact payloads.mem_of_refersTo refers
  | refine base =>
    cases admissible with
    | refine known => exact base ▸ known

/-- In a row of admissible declarations nothing refers to itself or to what is declared after it. -/
theorem AdmissibleInTurn.refers_back {scope : List String}
    {earlier later : List (String × Declaration)} {name other : String} {declaration : Declaration}
    (admissible : AdmissibleInTurn engine scope (earlier ++ (name, declaration) :: later))
    (refers : declaration.RefersTo other) :
    other ∈ scope ++ Table.keys earlier ∧ other ≠ name ∧ other ∉ Table.keys later := by
  obtain ⟨new, made⟩ := admissible earlier name declaration later rfl
  have known := made.mem_of_refersTo refers
  refine ⟨known, fun same => new (same ▸ known), fun declaredLater => ?_⟩
  -- The later declaration of that name would find it in its scope already.
  obtain ⟨⟨again, redeclared⟩, member, rfl⟩ := List.mem_map.mp declaredLater
  obtain ⟨between, rest, rfl⟩ := List.append_of_mem member
  have split : earlier ++ (name, declaration) :: (between ++ (again, redeclared) :: rest) =
      (earlier ++ (name, declaration) :: between) ++ (again, redeclared) :: rest := by
    simp only [List.append_assoc, List.cons_append]
  have absent := (admissible _ _ _ _ split).1
  rw [Table.keys_append, ← List.append_assoc] at absent
  exact absent (List.mem_append_left _ known)

/-! ### Mappings of fields -/

/-- A nested name holds a point, so it is not blank. -/
theorem blank_nestedName (owner key : String) : blank (nestedName owner key) = false := by
  simp [blank, nestedName, isBlank]

namespace Registry

/-- A name stands for a type exactly if it is registered. -/
theorem exists_type?_iff {registry : Registry} {name : String} :
    (∃ type, registry.type? name = some type) ↔ name ∈ registry.names := by
  constructor
  · rintro ⟨type, found⟩
    obtain ⟨entry, entryFound, _⟩ := Option.map_eq_some_iff.mp found
    exact Table.mem_keys_of_find? entryFound
  · intro member
    obtain ⟨entry, found⟩ := Table.exists_find?_of_mem_keys member
    exact ⟨entry.asType, Option.map_eq_some_iff.mpr ⟨entry, found, rfl⟩⟩

/-- The value is read as a declared field, and the field is resolved to a type of that name. -/
def Resolves (registry : Registry) (name : String) (supply : Supply) (json : Json) : Prop :=
  ∃ spec type rest, registry.fieldSpec name json = .ok spec ∧
    spec.resolve name supply = .ok (type, rest)

/-- The members are read as declared fields of the owner, and each of them is resolved. -/
def ResolvesEach (registry : Registry) (owner : String) (supply : Supply)
    (members : List (String × Json)) : Prop :=
  ∃ specs types rest, registry.fieldSpecsOf owner members = .ok specs ∧
    resolveEach owner specs supply = .ok (types, rest)

theorem resolvesEach_iff_of_each {registry : Registry} {members : List (String × Json)}
    (each : ∀ member ∈ members, ∀ name supply, blank name = false →
      (registry.Resolves name supply member.2 ↔ member.2.DeclaresField registry.names))
    (owner : String) (supply : Supply) :
    registry.ResolvesEach owner supply members ↔
      (Json.object members).DeclaresField registry.names := by
  rw [Json.declaresField_object_iff]
  induction members generalizing supply with
  | nil => exact iff_of_true ⟨[], [], supply, rfl, rfl⟩ (List.forall_mem_nil _)
  | cons member members inductionHypothesis =>
    obtain ⟨first, others⟩ := List.forall_mem_cons.mp each
    have resolves := first (nestedName owner member.1) supply (blank_nestedName _ _)
    rw [List.forall_mem_cons]
    constructor
    · rintro ⟨_, _, rest, read, resolved⟩
      obtain ⟨spec, specs, readFirst, readOthers, rfl⟩ :=
        Table.Aligned.cons_iff.mp (fieldSpecsOf_eq_ok_iff.mp read)
      obtain ⟨key, type, middle, types, made, madeOthers, _⟩ :=
        resolveEach_cons_eq_ok_iff.mp resolved
      refine ⟨⟨key, resolves.mp ⟨spec, type, middle, readFirst, made⟩⟩, ?_⟩
      exact (inductionHypothesis others middle).mp
        ⟨specs, types, rest, fieldSpecsOf_eq_ok_iff.mpr readOthers, madeOthers⟩
    · rintro ⟨⟨key, declares⟩, declareOthers⟩
      obtain ⟨spec, type, middle, readFirst, made⟩ := resolves.mpr declares
      obtain ⟨specs, types, rest, readOthers, madeOthers⟩ :=
        (inductionHypothesis others middle).mpr declareOthers
      refine ⟨(member.1, spec) :: specs, (member.1, type) :: types, rest, ?_, ?_⟩
      · exact fieldSpecsOf_eq_ok_iff.mpr (.cons readFirst (fieldSpecsOf_eq_ok_iff.mp readOthers))
      · exact resolveEach_cons_eq_ok_iff.mpr ⟨key, type, middle, types, made, madeOthers, rfl⟩

theorem resolves_object_iff {registry : Registry} {name : String} (named : blank name = false)
    {supply : Supply} {members : List (String × Json)} :
    registry.Resolves name supply (.object members) ↔
      registry.ResolvesEach name supply members := by
  constructor
  · rintro ⟨_, type, rest, read, resolved⟩
    obtain ⟨specs, readEach, rfl⟩ := fieldSpec_object_eq_ok_iff.mp read
    obtain ⟨_, types, middle, resolvedEach, _⟩ := resolve_record_eq_ok_iff.mp resolved
    exact ⟨specs, types, middle, readEach, resolvedEach⟩
  · rintro ⟨specs, types, middle, readEach, resolvedEach⟩
    exact ⟨.record specs, _, _, fieldSpec_object_eq_ok_iff.mpr ⟨specs, readEach, rfl⟩,
      resolve_record_eq_ok_iff.mpr ⟨named, types, middle, resolvedEach, rfl, rfl⟩⟩

/-- What resolves to a type declares a field, and conversely. -/
theorem resolves_iff {registry : Registry} (json : Json) (name : String) (supply : Supply)
    (named : blank name = false) :
    registry.Resolves name supply json ↔ json.DeclaresField registry.names := by
  induction json generalizing name supply with
  | string known =>
    constructor
    · rintro ⟨spec, _, _, read, _⟩
      rw [fieldSpec] at read
      split at read
      · rename_i type found
        exact .known (exists_type?_iff.mp ⟨type, found⟩)
      · cases read
    · intro declares
      cases declares with
      | known member =>
        obtain ⟨type, found⟩ := exists_type?_iff.mpr member
        refine ⟨.type type, type, supply, ?_, rfl⟩
        rw [fieldSpec, found]
  | object members inductionHypothesis =>
    rw [resolves_object_iff named]
    exact resolvesEach_iff_of_each (fun member entry => inductionHypothesis member entry) name
      supply
  | null | bool | number | array =>
    constructor
    · rintro ⟨_, _, _, read, _⟩
      cases read
    · intro declares
      cases declares

/-- The body of a record or union with a name that is not blank. -/
theorem resolvesEach_iff (registry : Registry) (owner : String) (supply : Supply)
    (members : List (String × Json)) :
    registry.ResolvesEach owner supply members ↔
      (Json.object members).DeclaresField registry.names :=
  resolvesEach_iff_of_each (fun member _ => resolves_iff member.2) owner supply

/-! ### One declaration -/

theorem exists_compilePattern_iff {name : String} {refinement : Refinement} :
    (∃ pattern, compilePattern engine name refinement = .ok pattern) ↔
      ∀ source, refinement.pattern = some source →
        ∃ pattern, engine.compile source = .ok pattern := by
  rw [compilePattern]
  cases refinement.pattern with
  | none => simp
  | some source => cases compiled : engine.compile source <;> simp [compiled]

theorem crossed?_eq_none_iff {refinement : Refinement} :
    crossed? refinement = none ↔
      ∀ minimum maximum, refinement.minimum = some minimum →
        refinement.maximum = some maximum → minimum.signedUnits ≤ maximum.signedUnits := by
  rw [crossed?]
  cases refinement.minimum with
  | none => simp
  | some minimum => cases refinement.maximum <;> simp [Binary64.le]

theorem exists_declared_data_iff {registry : Registry} {name : String} {spec : Json}
    {supply : Supply} :
    (∃ rest entry, Declared engine registry name supply rest (.data spec) entry) ↔
      (Declaration.data spec).Admissible engine registry.names name := by
  constructor
  · rintro ⟨rest, entry, declared⟩
    cases declared with
    | @data _ fields type read made =>
      cases spec with
      | object members =>
        obtain ⟨named, types, middle, resolved, _⟩ := resolve_record_eq_ok_iff.mp made
        exact .data named
          ((resolvesEach_iff _ _ _ _).mp ⟨fields, types, middle, read, resolved⟩)
      | null | bool | number | string | array => cases read
  · intro admissible
    cases admissible with
    | @data members named fields =>
      obtain ⟨specs, types, middle, read, resolved⟩ :=
        (resolvesEach_iff registry name supply members).mpr fields
      have made := resolve_record_eq_ok_iff.mpr ⟨named, types, middle, resolved, rfl, rfl⟩
      exact ⟨_, _, .data read made⟩

/-- A mapping declares no fields exactly if it has no members. -/
theorem fieldSpecsOf_nil_iff {registry : Registry} {owner : String} {members : List (String × Json)}
    {specs : List (String × FieldSpec)} (read : registry.fieldSpecsOf owner members = .ok specs) :
    specs = [] ↔ members = [] := by
  have keys := (fieldSpecsOf_eq_ok_iff.mp read).keys
  constructor
  · rintro rfl
    exact List.map_eq_nil_iff.mp keys.symm
  · rintro rfl
    exact List.map_eq_nil_iff.mp keys

theorem exists_declared_union_iff {registry : Registry} {name : String} {spec : Json}
    {supply : Supply} :
    (∃ rest entry, Declared engine registry name supply rest (.union spec) entry) ↔
      (Declaration.union spec).Admissible engine registry.names name := by
  constructor
  · rintro ⟨rest, entry, declared⟩
    cases declared with
    | @union _ payloads union read made =>
      cases spec with
      | object members =>
        obtain ⟨nonempty, named, types, middle, resolved, _⟩ := makeUnion_eq_ok_iff.mp made
        exact .union named (fun empty => nonempty ((fieldSpecsOf_nil_iff read).mpr empty))
          ((resolvesEach_iff _ _ _ _).mp ⟨payloads, types, middle, read, resolved⟩)
      | null | bool | number | string | array => cases read
  · intro admissible
    cases admissible with
    | @union members named nonempty payloads =>
      obtain ⟨specs, types, middle, read, resolved⟩ :=
        (resolvesEach_iff registry name supply members).mpr payloads
      have declared : specs ≠ [] := fun empty => nonempty ((fieldSpecsOf_nil_iff read).mp empty)
      have made := makeUnion_eq_ok_iff.mpr ⟨declared, named, types, middle, resolved, rfl, rfl⟩
      exact ⟨_, _, .union read made⟩

theorem exists_declared_refine_iff {registry : Registry} {name : String} {refinement : Refinement}
    {supply : Supply} :
    (∃ rest entry, Declared engine registry name supply rest (.refine refinement) entry) ↔
      (Declaration.refine refinement).Admissible engine registry.names name := by
  constructor
  · rintro ⟨rest, entry, declared⟩
    cases declared with
    | refine made =>
      obtain ⟨base, pattern, found, compiled, ordered, _⟩ := refine_eq_ok_iff.mp made
      exact .refine (exists_type?_iff.mp ⟨base, found⟩)
        (exists_compilePattern_iff.mp ⟨pattern, compiled⟩) (crossed?_eq_none_iff.mp ordered)
  · intro admissible
    cases admissible with
    | refine base compiles ordered =>
      obtain ⟨type, found⟩ := exists_type?_iff.mpr base
      have compilable : ∃ pattern, compilePattern engine name refinement = .ok pattern :=
        exists_compilePattern_iff.mpr compiles
      obtain ⟨pattern, compiled⟩ := compilable
      exact ⟨_, _, .refine (refine_eq_ok_iff.mpr
        ⟨type, pattern, found, compiled, crossed?_eq_none_iff.mpr ordered, rfl, rfl⟩)⟩

/-- Something is made of a declaration exactly if it is admissible where it stands. -/
theorem exists_declared_iff {registry : Registry} {name : String} {declaration : Declaration}
    (supply : Supply) :
    (∃ rest entry, Declared engine registry name supply rest declaration entry) ↔
      declaration.Admissible engine registry.names name := by
  cases declaration with
  | data spec => exact exists_declared_data_iff
  | union spec => exact exists_declared_union_iff
  | refine refinement => exact exists_declared_refine_iff

theorem exists_declare_iff {registry : Registry} {name : String} {declaration : Declaration}
    {supply : Supply} :
    (∃ extended rest, registry.declare engine name declaration supply = .ok (extended, rest)) ↔
      name ∉ registry.names ∧ declaration.Admissible engine registry.names name := by
  rw [← exists_declared_iff supply, ← has_eq_false_iff]
  constructor
  · rintro ⟨_, rest, done⟩
    obtain ⟨entry, declared, new, _⟩ := declare_eq_ok_iff.mp done
    exact ⟨new, rest, entry, declared⟩
  · rintro ⟨new, rest, entry, declared⟩
    exact ⟨_, rest, declare_eq_ok_iff.mpr ⟨entry, declared, new, rfl⟩⟩

end Registry

/-! ### Errors -/

/-- The name is the owner's, or that of something nested in it. -/
inductive NestedIn (owner : String) : String → Prop
  | self : NestedIn owner owner
  | under {name : String} (nested : NestedIn owner name) (key : String) :
      NestedIn owner (nestedName name key)

/-- What is nested under a key of the owner is nested in the owner. -/
theorem NestedIn.of_nestedName {owner key name : String}
    (nested : NestedIn (nestedName owner key) name) : NestedIn owner name := by
  induction nested with
  | self => exact .under .self key
  | under _ inner inductionHypothesis => exact .under inductionHypothesis inner

@[elab_as_elim, induction_eliminator]
theorem FieldSpec.induction {motive : FieldSpec → Prop} (type : ∀ known, motive (.type known))
    (primitive : ∀ kind, motive (.primitive kind))
    (record : ∀ fields, (∀ field ∈ fields, motive field.2) → motive (.record fields))
    (spec : FieldSpec) : motive spec := by
  refine @FieldSpec.rec motive (fun fields => ∀ field ∈ fields, motive field.2)
    (fun field => motive field.2) type primitive record ?_ ?_ ?_ spec
  · exact List.forall_mem_nil _
  · exact fun _ _ ofHead ofRest => List.forall_mem_cons.mpr ⟨ofHead, ofRest⟩
  · exact fun _ _ held => held

theorem resolveEach_error {fields : List (String × FieldSpec)}
    (each : ∀ field ∈ fields, ∀ name supply error,
      field.2.resolve name supply = .error error → NestedIn name error.name)
    {owner : String} {supply : Supply} {error : DefinitionError}
    (failed : resolveEach owner fields supply = .error error) : NestedIn owner error.name := by
  induction fields generalizing supply with
  | nil => cases failed
  | cons field fields inductionHypothesis =>
    obtain ⟨first, others⟩ := List.forall_mem_cons.mp each
    rw [resolveEach] at failed
    split at failed
    · cases failed
      exact .self
    · simp only [bind_eq_error_iff, pure_eq_error_iff, Prod.exists, and_false, exists_false,
        or_false] at failed
      rcases failed with here | ⟨_, _, _, later⟩
      · exact (first _ supply error here).of_nestedName
      · exact inductionHypothesis others later

/-- An error in resolving a field names the field or something nested in it. -/
theorem FieldSpec.resolve_error (spec : FieldSpec) (name : String) (supply : Supply)
    (error : DefinitionError) (failed : spec.resolve name supply = .error error) :
    NestedIn name error.name := by
  induction spec generalizing name supply error with
  | type => cases failed
  | primitive => cases failed
  | record fields inductionHypothesis =>
    rw [FieldSpec.resolve] at failed
    split at failed
    · cases failed
      exact .self
    · simp only [bind_eq_error_iff, pure_eq_error_iff, and_false, exists_false, or_false] at failed
      exact resolveEach_error inductionHypothesis failed

theorem makeUnion_error {name : String} {payloads : FieldSpecs} {supply : Supply}
    {error : DefinitionError} (failed : makeUnion name payloads supply = .error error) :
    NestedIn name error.name := by
  rw [makeUnion, resolveFields] at failed
  split at failed
  · cases failed
    exact .self
  · split at failed
    · cases failed
      exact .self
    · simp only [bind_eq_error_iff, pure_eq_error_iff, and_false, exists_false, or_false] at failed
      exact resolveEach_error (fun field _ => field.2.resolve_error) failed

namespace Registry

theorem fieldSpecsOf_error {registry : Registry} {members : List (String × Json)}
    (each : ∀ member ∈ members, ∀ owner error,
      registry.fieldSpec owner member.2 = .error error → NestedIn owner error.name)
    {owner : String} {error : DefinitionError}
    (failed : registry.fieldSpecsOf owner members = .error error) : NestedIn owner error.name := by
  induction members with
  | nil => cases failed
  | cons member members inductionHypothesis =>
    obtain ⟨first, others⟩ := List.forall_mem_cons.mp each
    simp only [fieldSpecsOf, bind_eq_error_iff, pure_eq_error_iff, and_false, exists_false,
      or_false] at failed
    rcases failed with here | ⟨_, _, later⟩
    · exact (first _ error here).of_nestedName
    · exact inductionHypothesis others later

/-- An error in reading a field names the field or something nested in it. -/
theorem fieldSpec_error {registry : Registry} (json : Json) (owner : String)
    (error : DefinitionError) (failed : registry.fieldSpec owner json = .error error) :
    NestedIn owner error.name := by
  induction json generalizing owner error with
  | string name =>
    rw [fieldSpec] at failed
    split at failed
    · cases failed
    · cases failed
      exact .self
  | object members inductionHypothesis =>
    simp only [fieldSpec, bind_eq_error_iff, pure_eq_error_iff, and_false, exists_false,
      or_false] at failed
    exact fieldSpecsOf_error inductionHypothesis failed
  | null | bool | number | array =>
    cases failed
    exact .self

theorem fieldSpecs_error {registry : Registry} {spec : Json} {owner : String}
    {error : DefinitionError} (failed : registry.fieldSpecs owner spec = .error error) :
    NestedIn owner error.name := by
  cases spec with
  | object members =>
    exact fieldSpecsOf_error (fun member _ => fieldSpec_error member.2) failed
  | null | bool | number | string | array =>
    cases failed
    exact .self

theorem refine_error {registry : Registry} {name : String} {refinement : Refinement}
    {supply : Supply} {error : DefinitionError}
    (failed : registry.refine engine name refinement supply = .error error) :
    error.name = name := by
  rw [refine] at failed
  split at failed
  · cases failed
    rfl
  · rw [bind_eq_error_iff] at failed
    rcases failed with uncompiled | ⟨_, _, crossing⟩
    · rw [compilePattern] at uncompiled
      split at uncompiled
      · cases uncompiled
      · split at uncompiled
        · cases uncompiled
        · cases uncompiled
          rfl
    · split at crossing
      · cases crossing
        rfl
      · cases crossing

theorem insert_error {registry : Registry} {name : String} {entry : Entry}
    {error : DefinitionError} (failed : registry.insert name entry = .error error) :
    error.name = name := by
  rw [insert] at failed
  split at failed
  · cases failed
    rfl
  · cases failed

/-- The error of a declaration names the declaration or something nested in it. -/
theorem declare_error {registry : Registry} {name : String} {declaration : Declaration}
    {supply : Supply} {error : DefinitionError}
    (failed : registry.declare engine name declaration supply = .error error) :
    NestedIn name error.name := by
  -- An error in registering bears the name that was made, which is the declared one.
  have registers : ∀ {rest : Supply} {entry : Entry},
      Declared engine registry name supply rest declaration entry →
      registry.insert entry.asType.name entry = .error error → NestedIn name error.name := by
    intro rest entry declared refused
    have named : error.name = name := (insert_error refused).trans declared.name
    exact named ▸ .self
  cases declaration with
  | data spec =>
    simp only [declare, bind_eq_error_iff, pure_eq_error_iff, Prod.exists, and_false,
      exists_false, or_false, insertType] at failed
    rcases failed with unread | ⟨fields, read, unmade | ⟨type, rest, made, refused⟩⟩
    · exact fieldSpecs_error unread
    · exact FieldSpec.resolve_error _ _ _ _ unmade
    · exact registers (.data read made) refused
  | union spec =>
    simp only [declare, bind_eq_error_iff, pure_eq_error_iff, Prod.exists, and_false,
      exists_false, or_false, insertUnion] at failed
    rcases failed with unread | ⟨fields, read, unmade | ⟨union, rest, made, refused⟩⟩
    · exact fieldSpecs_error unread
    · exact makeUnion_error unmade
    · exact registers (.union read made) refused
  | refine refinement =>
    simp only [declare, bind_eq_error_iff, pure_eq_error_iff, Prod.exists, and_false,
      exists_false, or_false, insertType] at failed
    rcases failed with unmade | ⟨type, rest, made, refused⟩
    · exact refine_error unmade ▸ .self
    · exact registers (.refine made) refused

/-! ### Files -/

theorem names_of_declareAll {registry extended : Registry}
    {declarations : List (String × Declaration)} {supply rest : Supply}
    (done : registry.declareAll engine declarations supply = .ok (extended, rest)) :
    extended.names = registry.names ++ Table.keys declarations := by
  obtain ⟨added, behind, keys⟩ := declareAll_adds done
  rw [names, behind, Table.keys_append, keys]
  rfl

/-- A row of declarations can be made exactly if each of them is admissible in its turn. -/
theorem exists_declareAll_iff {registry : Registry} {declarations : List (String × Declaration)}
    (supply : Supply) :
    (∃ extended rest, registry.declareAll engine declarations supply = .ok (extended, rest)) ↔
      AdmissibleInTurn engine registry.names declarations := by
  constructor
  · rintro ⟨extended, rest, done⟩ earlier name declaration later rfl
    rw [declareAll_append, bind_eq_ok_iff] at done
    obtain ⟨⟨middle, left⟩, before, done⟩ := done
    obtain ⟨next, remaining, declared, _⟩ := declareAll_cons_eq_ok_iff.mp done
    rw [← names_of_declareAll before]
    exact exists_declare_iff.mp ⟨next, remaining, declared⟩
  · intro admissible
    cases outcome : registry.declareAll engine declarations supply with
    | ok result => exact ⟨result.1, result.2, rfl⟩
    | error error =>
      obtain ⟨earlier, name, declaration, later, middle, left, split, before, failed⟩ :=
        declareAll_eq_error_iff.mp outcome
      have here := admissible earlier name declaration later split
      rw [← names_of_declareAll before] at here
      obtain ⟨extended, rest, done⟩ := exists_declare_iff.mpr here
      rw [failed] at done
      cases done

theorem exists_load_iff {registry : Registry} {file : DefinitionFile} {supply : Supply} :
    (∃ loaded, registry.load engine file supply = .ok loaded) ↔
      AdmissibleInTurn engine registry.names file.types := by
  rw [← exists_declareAll_iff supply]
  simp only [load, bind_eq_ok_iff, pure_eq_ok_iff, Prod.exists]
  constructor
  · rintro ⟨_, extended, rest, done, _⟩
    exact ⟨extended, rest, done⟩
  · rintro ⟨extended, rest, done⟩
    exact ⟨_, extended, rest, done, rfl⟩

/-- A file is loaded exactly if each of its declarations has a new name and is admissible in its
turn. Then nothing in it refers to itself or to what is declared after it. A load that fails reports
the first declaration that is not admissible, in an error of the definition that names it or
something nested in it. -/
theorem load_iff_admissible (registry : Registry) (file : DefinitionFile) (supply : Supply) :
    ((∃ loaded, registry.load engine file supply = .ok loaded) ↔
        AdmissibleInTurn engine registry.names file.types) ∧
      (∀ loaded, registry.load engine file supply = .ok loaded →
        ∀ earlier name declaration later, file.types = earlier ++ (name, declaration) :: later →
          ∀ other, declaration.RefersTo other →
            other ∈ registry.names ++ Table.keys earlier ∧ other ≠ name ∧
              other ∉ Table.keys later) ∧
      ∀ error, registry.load engine file supply = .error error →
        ∃ earlier name declaration later, file.types = earlier ++ (name, declaration) :: later ∧
          AdmissibleInTurn engine registry.names earlier ∧
          ¬ (name ∉ registry.names ++ Table.keys earlier ∧
            declaration.Admissible engine (registry.names ++ Table.keys earlier) name) ∧
          NestedIn name error.name := by
  refine ⟨exists_load_iff, ?_, ?_⟩
  · intro loaded done earlier name declaration later split other refers
    have admissible := exists_load_iff.mp ⟨loaded, done⟩
    rw [split] at admissible
    exact admissible.refers_back refers
  · intro error failed
    simp only [load, bind_eq_error_iff, pure_eq_error_iff, and_false, exists_false,
      or_false] at failed
    obtain ⟨earlier, name, declaration, later, middle, left, split, before, failed⟩ :=
      declareAll_eq_error_iff.mp failed
    refine ⟨earlier, name, declaration, later, split, ?_, ?_, declare_error failed⟩
    · exact (exists_declareAll_iff supply).mp ⟨middle, left, before⟩
    · intro admissible
      rw [← names_of_declareAll before] at admissible
      obtain ⟨extended, rest, done⟩ := exists_declare_iff.mpr admissible
      rw [failed] at done
      cases done

/-- A refinement of a standard type is loaded. Behind it, a record that contains itself is not,
because its own name is not among those that it can refer to. -/
theorem load_iff_admissible_tree :
    let label : String × Declaration := ("Label", .refine ⟨"String", none, none, none⟩)
    let tree : String × Declaration :=
      ("Tree", .data (.object [("root", .string "Label"), ("rest", .string "Tree")]))
    AdmissibleInTurn Pattern.engine standard.names [label] ∧
      ∀ loaded, standard.load Pattern.engine ⟨[label, tree]⟩ ⟨0⟩ ≠ .ok loaded := by
  intro label tree
  obtain ⟨admissible, _⟩ := load_iff_admissible standard ⟨[label]⟩ ⟨0⟩
  obtain ⟨_, back, _⟩ := load_iff_admissible standard ⟨[label, tree]⟩ ⟨0⟩
  refine ⟨admissible.mp ⟨_, rfl⟩, fun loaded done => ?_⟩
  have itself : tree.2.RefersTo "Tree" :=
    .data (.inside (List.mem_cons_of_mem _ List.mem_cons_self) .here)
  exact (back loaded done [label] "Tree" tree.2 [] rfl "Tree" itself).2.1 rfl

end Registry

end JsonShape
