/-
This file follows a declaration on its way into the registry. Its JSON is turned
into declared fields (`fieldSpecsOf_eq_ok_iff`), these are resolved into types
(`resolveEach_each`), a record or a union is made of them, and what was made is
registered at the end of the table (`declare_eq_ok_iff`). A load is such steps in a
row, so whatever one step keeps, a load keeps (`declareAll_invariant`).

The declared fields of a file refer to registered types and are free of repeated
names, at every depth; `FieldSpec.Over` says so of a single declared field, and the
proofs about resolving follow it. So a property of types that is kept by each way of
making one is kept by loading (`Closed.loadText`).
-/

import JsonShape.Proofs.Aligned
import JsonShape.Proofs.Parts
import JsonShape.Proofs.Reading
import JsonShape.Registry

namespace JsonShape

/-! ### Declared fields -/

/-- A declared field whose known types have a property, and whose nested fields hold no name
twice. -/
inductive FieldSpec.Over (Known : Descriptor → Prop) : FieldSpec → Prop
  | type {known : Descriptor} (holds : Known known) : Over Known (.type known)
  | primitive (kind : Primitive) : Over Known (.primitive kind)
  | record {fields : List (String × FieldSpec)} (names : (Table.keys fields).Nodup)
      (each : ∀ field ∈ fields, Over Known field.2) : Over Known (.record fields)

theorem FieldSpec.over_record_iff {Known : Descriptor → Prop} {fields : FieldSpecs} :
    (FieldSpec.record fields).Over Known ↔
      (Table.keys fields).Nodup ∧ ∀ field ∈ fields, field.2.Over Known := by
  constructor
  · rintro (_ | _ | ⟨names, each⟩)
    exact ⟨names, each⟩
  · rintro ⟨names, each⟩
    exact .record names each

theorem FieldSpec.Over.mono {Known Wider : Descriptor → Prop} {spec : FieldSpec}
    (refers : spec.Over Known) (wider : ∀ type, Known type → Wider type) : spec.Over Wider := by
  induction refers with
  | type holds => exact .type (wider _ holds)
  | primitive kind => exact .primitive kind
  | record names _ inductionHypothesis => exact .record names inductionHypothesis

/-! ### Resolving -/

theorem resolve_record_eq_ok_iff {fields : List (String × FieldSpec)} {name : String}
    {supply rest : Supply} {type : Descriptor} :
    (FieldSpec.record fields).resolve name supply = .ok (type, rest) ↔
      blank name = false ∧ ∃ types middle, resolveEach name fields supply = .ok (types, middle) ∧
        type = .record middle.draw.1 name types ∧ rest = middle.draw.2 := by
  rw [FieldSpec.resolve]
  cases blankName : blank name with
  | true => simp
  | false =>
    simp only [Bool.false_eq_true, if_false, bind_eq_ok_iff, pure_eq_ok_iff, identified,
      Prod.exists, true_and, Prod.mk.injEq]
    constructor
    · rintro ⟨types, middle, resolved, rfl, rfl⟩
      exact ⟨types, middle, resolved, rfl, rfl⟩
    · rintro ⟨types, middle, resolved, rfl, rfl⟩
      exact ⟨types, middle, resolved, rfl, rfl⟩

/-- The first field is resolved under its own name, and the others with what remains. -/
theorem resolveEach_cons_eq_ok_iff {owner : String} {field : String × FieldSpec}
    {fields : List (String × FieldSpec)} {supply rest : Supply}
    {types : List (String × Descriptor)} :
    resolveEach owner (field :: fields) supply = .ok (types, rest) ↔
      blank field.1 = false ∧ ∃ type middle others,
        field.2.resolve (nestedName owner field.1) supply = .ok (type, middle) ∧
        resolveEach owner fields middle = .ok (others, rest) ∧
        types = (field.1, type) :: others := by
  obtain ⟨key, spec⟩ := field
  rw [resolveEach]
  cases blankKey : blank key with
  | true => simp
  | false =>
    simp only [Bool.false_eq_true, if_false, bind_eq_ok_iff, pure_eq_ok_iff,
      Prod.exists, true_and, Prod.mk.injEq]
    constructor
    · rintro ⟨type, middle, first, others, _, tail, rfl, rfl⟩
      exact ⟨type, middle, others, first, tail, rfl⟩
    · rintro ⟨type, middle, others, first, tail, rfl⟩
      exact ⟨type, middle, first, others, rest, tail, rfl, rfl⟩

/-- Resolving keeps the names of the fields, and resolves each field under its own name in the
owner's. -/
theorem resolveEach_aligned {owner : String} {fields : List (String × FieldSpec)}
    {supply rest : Supply} {types : List (String × Descriptor)}
    (resolved : resolveEach owner fields supply = .ok (types, rest)) :
    Table.Aligned (fun key field type => ∃ before after,
      field.resolve (nestedName owner key) before = .ok (type, after)) fields types := by
  induction fields generalizing supply types with
  | nil =>
    simp only [resolveEach, Except.ok.injEq, Prod.mk.injEq] at resolved
    exact resolved.1 ▸ .nil
  | cons field fields inductionHypothesis =>
    obtain ⟨_, type, middle, others, head, tail, rfl⟩ := resolveEach_cons_eq_ok_iff.mp resolved
    exact .cons ⟨_, _, head⟩ (inductionHypothesis tail)

/-- Every type has what its field gives it. -/
theorem resolveEach_each {Property : Descriptor → Prop} {owner : String}
    {fields : List (String × FieldSpec)} {supply rest : Supply}
    {types : List (String × Descriptor)}
    (each : ∀ field ∈ fields, ∀ name supply type rest,
      field.2.resolve name supply = .ok (type, rest) → Property type)
    (resolved : resolveEach owner fields supply = .ok (types, rest)) :
    Table.Aligned (fun _ _ type => Property type) fields types := by
  refine (resolveEach_aligned resolved).imp ?_
  rintro field member type ⟨before, after, done⟩
  exact each field member _ _ _ _ done

theorem resolveEach_keys {owner : String} {fields : List (String × FieldSpec)}
    {supply rest : Supply} {types : List (String × Descriptor)}
    (resolved : resolveEach owner fields supply = .ok (types, rest)) :
    Table.keys types = Table.keys fields := by
  have aligned : Table.Aligned (fun _ _ _ => True) fields types :=
    resolveEach_each (fun _ _ _ _ _ _ _ => trivial) resolved
  exact aligned.keys

/-- No field that is resolved has a blank name. -/
theorem resolveEach_written {owner : String} {fields : List (String × FieldSpec)}
    {supply rest : Supply} {types : List (String × Descriptor)}
    (resolved : resolveEach owner fields supply = .ok (types, rest)) :
    ∀ entry ∈ types, blank entry.1 = false := by
  induction fields generalizing supply types with
  | nil =>
    simp only [resolveEach, Except.ok.injEq, Prod.mk.injEq] at resolved
    exact resolved.1 ▸ List.forall_mem_nil _
  | cons field fields inductionHypothesis =>
    obtain ⟨written, type, middle, others, _, tail, rfl⟩ := resolveEach_cons_eq_ok_iff.mp resolved
    exact List.forall_mem_cons.mpr ⟨written, inductionHypothesis tail⟩

/-- What the raw kinds have, and every record whose fields have it, all types have that declared
fields over such types stand for. -/
theorem FieldSpec.Over.of_resolve {Property : Descriptor → Prop} {spec : FieldSpec}
    (refers : spec.Over Property) (primitives : ∀ kind : Primitive, Property kind.descriptor)
    (records : ∀ identity name fields, blank name = false → (Table.keys fields).Nodup →
      (∀ field ∈ fields, blank field.1 = false) → (∀ field ∈ fields, Property field.2) →
      Property (.record identity name fields))
    (name : String) (supply : Supply) (type : Descriptor) (rest : Supply)
    (resolved : spec.resolve name supply = .ok (type, rest)) : Property type := by
  induction refers generalizing name supply type rest with
  | type holds =>
    simp only [FieldSpec.resolve, Except.ok.injEq, Prod.mk.injEq] at resolved
    exact resolved.1 ▸ holds
  | primitive kind =>
    simp only [FieldSpec.resolve, Except.ok.injEq, Prod.mk.injEq] at resolved
    exact resolved.1 ▸ primitives kind
  | record names _ inductionHypothesis =>
    obtain ⟨named, types, middle, each, rfl, _⟩ := resolve_record_eq_ok_iff.mp resolved
    have aligned := resolveEach_each inductionHypothesis each
    refine records _ _ _ named (aligned.keys ▸ names) (resolveEach_written each) ?_
    intro field member
    obtain ⟨_, _, held⟩ := aligned.exists_first member
    exact held

/-- Each variant of a union is a variant descriptor of the payload under its own name. -/
theorem makeVariants_aligned (payloads : List (String × Descriptor)) (supply : Supply) :
    Table.Aligned (fun name payload variant =>
      ∃ identity, variant = Descriptor.variant identity name payload) payloads
      (makeVariants payloads supply).1 := by
  induction payloads generalizing supply with
  | nil => exact .nil
  | cons payload rest inductionHypothesis => exact .cons ⟨_, rfl⟩ (inductionHypothesis _)

theorem makeVariants_next (payloads : List (String × Descriptor)) (supply : Supply) :
    (makeVariants payloads supply).2.next = supply.next + payloads.length := by
  induction payloads generalizing supply with
  | nil => rfl
  | cons payload rest inductionHypothesis =>
    show (makeVariants rest supply.draw.2).2.next = _
    rw [inductionHypothesis, List.length_cons]
    show supply.next + 1 + rest.length = _
    omega

/-- The variants of a union bear the turns that are drawn for them, one after the other. -/
theorem makeVariants_turns (payloads : List (String × Descriptor)) (supply : Supply)
    (identity : Identity) :
    (∃ variant ∈ (makeVariants payloads supply).1, variant.2.identity = identity) ↔
      ∃ turn, identity = .made turn ∧ supply.next ≤ turn ∧
        turn < supply.next + payloads.length := by
  induction payloads generalizing supply with
  | nil =>
    refine iff_of_false (fun ⟨_, member, _⟩ => nomatch member) ?_
    rintro ⟨turn, _, least, below⟩
    exact absurd below (Nat.not_lt.mpr least)
  | cons payload rest inductionHypothesis =>
    have later := inductionHypothesis supply.draw.2
    simp only [makeVariants, identified, List.mem_cons, exists_eq_or_imp]
    rw [later]
    simp only [Supply.draw, Descriptor.identity, List.length_cons]
    constructor
    · rintro (rfl | ⟨turn, rfl, least, below⟩)
      · exact ⟨_, rfl, Nat.le_refl _, by omega⟩
      · exact ⟨turn, rfl, by omega, by omega⟩
    · rintro ⟨turn, rfl, least, below⟩
      rcases Nat.eq_or_lt_of_le least with equal | after
      · exact Or.inl (equal ▸ rfl)
      · exact Or.inr ⟨turn, rfl, after, by omega⟩

theorem makeUnion_eq_ok_iff {name : String} {payloads : FieldSpecs} {supply rest : Supply}
    {union : Union} :
    makeUnion name payloads supply = .ok (union, rest) ↔
      payloads ≠ [] ∧ blank name = false ∧ ∃ types middle,
        resolveEach name payloads supply = .ok (types, middle) ∧
        union = ⟨(makeVariants types middle).2.draw.1, name, (makeVariants types middle).1⟩ ∧
        rest = (makeVariants types middle).2.draw.2 := by
  rw [makeUnion, resolveFields]
  cases payloads with
  | nil => simp
  | cons payload payloads =>
    cases blankName : blank name with
    | true => simp [bind, Except.bind]
    | false =>
      simp only [List.isEmpty_cons, Bool.false_eq_true, if_false, bind_eq_ok_iff, pure_eq_ok_iff,
        Prod.exists, ne_eq, reduceCtorEq, not_false_eq_true, true_and, Prod.mk.injEq]
      constructor
      · rintro ⟨types, middle, resolved, rfl, rfl⟩
        exact ⟨types, middle, resolved, rfl, rfl⟩
      · rintro ⟨types, middle, resolved, rfl, rfl⟩
        exact ⟨types, middle, resolved, rfl, rfl⟩

namespace Registry

/-- Every type that the registry holds has the property. -/
def Holds (registry : Registry) (Property : Descriptor → Prop) : Prop :=
  ∀ entry ∈ registry.entries, Property entry.2.asType

theorem Holds.type? {registry : Registry} {Property : Descriptor → Prop}
    (holds : registry.Holds Property) {name : String} {type : Descriptor}
    (found : registry.type? name = some type) : Property type := by
  obtain ⟨entry, entryFound, rfl⟩ := Option.map_eq_some_iff.mp found
  exact holds (name, entry) (Table.mem_of_find? entryFound)

/-- A registry holds what it is extended by. -/
theorem Holds.append {registry : Registry} {Property : Descriptor → Prop}
    (holds : registry.Holds Property) (name : String) {entry : Entry}
    (new : Property entry.asType) :
    (Registry.mk (registry.entries ++ [(name, entry)])).Holds Property := by
  intro other member
  rcases List.mem_append.mp member with old | added
  · exact holds other old
  · obtain rfl := List.mem_singleton.mp added
    exact new

/-- The standard registry holds the standard scalars and the two standard unions. -/
theorem standard_holds {Property : Descriptor → Prop}
    (scalars : ∀ type ∈ Standard.all, Property type) (maybe : Property Maybe.union.asType)
    (result : Property Result.union.asType) : Registry.standard.Holds Property := by
  intro entry member
  rcases List.mem_append.mp member with scalar | union
  · obtain ⟨type, known, rfl⟩ := List.mem_map.mp scalar
    exact scalars type known
  · simp only [List.map_cons, List.map_nil, List.mem_cons, List.not_mem_nil, or_false] at union
    rcases union with rfl | rfl
    · exact maybe
    · exact result

/-- The declared fields of a mapping are read one by one, each under its own name. -/
theorem fieldSpecsOf_eq_ok_iff {registry : Registry} {owner : String}
    {members : List (String × Json)} {specs : List (String × FieldSpec)} :
    registry.fieldSpecsOf owner members = .ok specs ↔
      Table.Aligned (fun key field spec =>
        registry.fieldSpec (nestedName owner key) field = .ok spec) members specs := by
  induction members generalizing specs with
  | nil =>
    rw [fieldSpecsOf, Table.Aligned.nil_iff, Except.ok.injEq]
    exact eq_comm
  | cons member rest inductionHypothesis =>
    obtain ⟨key, field⟩ := member
    rw [fieldSpecsOf, Table.Aligned.cons_iff]
    simp only [bind_eq_ok_iff, pure_eq_ok_iff, inductionHypothesis]
    constructor
    · rintro ⟨spec, read, others, tail, rfl⟩
      exact ⟨spec, others, read, tail, rfl⟩
    · rintro ⟨spec, others, read, tail, rfl⟩
      exact ⟨spec, read, others, tail, rfl⟩

theorem fieldSpec_object_eq_ok_iff {registry : Registry} {owner : String}
    {members : List (String × Json)} {spec : FieldSpec} :
    registry.fieldSpec owner (.object members) = .ok spec ↔
      ∃ specs, registry.fieldSpecsOf owner members = .ok specs ∧ .record specs = spec := by
  rw [fieldSpec]
  simp only [bind_eq_ok_iff, pure_eq_ok_iff]

/-- The declared fields of a mapping that holds no name twice. -/
theorem over_record_of_fieldSpecsOf {registry : Registry} {Known : Descriptor → Prop}
    {owner : String} {members : List (String × Json)} {specs : List (String × FieldSpec)}
    (names : (Table.keys members).Nodup)
    (each : ∀ member ∈ members, ∀ inner spec, registry.fieldSpec inner member.2 = .ok spec →
      spec.Over Known)
    (read : registry.fieldSpecsOf owner members = .ok specs) :
    (FieldSpec.record specs).Over Known := by
  have aligned := fieldSpecsOf_eq_ok_iff.mp read
  refine .record (aligned.keys ▸ names) fun spec specMember => ?_
  obtain ⟨field, member, done⟩ := aligned.exists_first specMember
  exact each _ member _ _ done

/-- A declared field that was read refers to types of the registry only. -/
theorem fieldSpec_over {registry : Registry} {Known : Descriptor → Prop}
    (holds : registry.Holds Known) {json : Json} (distinct : json.Distinct) (owner : String)
    (spec : FieldSpec) (read : registry.fieldSpec owner json = .ok spec) : spec.Over Known := by
  induction distinct generalizing owner spec with
  | string name =>
    rw [fieldSpec] at read
    split at read
    · rename_i type found
      exact Except.ok.inj read ▸ .type (holds.type? found)
    · cases read
  | object names _ inductionHypothesis =>
    obtain ⟨specs, readEach, rfl⟩ := fieldSpec_object_eq_ok_iff.mp read
    exact over_record_of_fieldSpecsOf names inductionHypothesis readEach
  | null | bool | number | array => cases read

/-- The body of a definition that was read refers to types of the registry only. -/
theorem fieldSpecs_over {registry : Registry} {Known : Descriptor → Prop}
    (holds : registry.Holds Known) {json : Json} (distinct : json.Distinct) {owner : String}
    {specs : FieldSpecs} (read : registry.fieldSpecs owner json = .ok specs) :
    (FieldSpec.record specs).Over Known := by
  cases json with
  | object members =>
    exact fieldSpec_over holds distinct owner _ (fieldSpec_object_eq_ok_iff.mpr ⟨specs, read, rfl⟩)
  | null | bool | number | string | array => cases read

/-! ### One declaration -/

variable {engine : PatternEngine}

/-- A refinement has no pattern, or one of which the engine makes a matcher. -/
theorem compilePattern_eq_ok_iff {name : String} {refinement : Refinement}
    {pattern : Option Matcher} :
    compilePattern engine name refinement = .ok pattern ↔
      (refinement.pattern = none ∧ pattern = none) ∨
        ∃ source matchesIn, refinement.pattern = some source ∧
          engine.compile source = .ok matchesIn ∧ pattern = some matchesIn := by
  rw [compilePattern]
  cases refinement.pattern with
  | none => simp [eq_comm]
  | some source => cases read : engine.compile source <;> simp [read, eq_comm]

theorem refine_eq_ok_iff {registry : Registry} {name : String} {refinement : Refinement}
    {supply rest : Supply} {type : Descriptor} :
    registry.refine engine name refinement supply = .ok (type, rest) ↔
      ∃ base pattern, registry.type? refinement.base = some base ∧
        compilePattern engine name refinement = .ok pattern ∧ crossed? refinement = none ∧
        type = .scalar supply.draw.1 name
          (refinedPredicate base pattern refinement.minimum refinement.maximum) none
          (some (refinedSchema name base refinement)) ∧
        rest = supply.draw.2 := by
  rw [refine]
  cases found : registry.type? refinement.base with
  | none => simp
  | some base =>
    cases crossing : crossed? refinement with
    | some bounds => simp [bind_eq_ok_iff]
    | none =>
      simp only [bind_eq_ok_iff, pure_eq_ok_iff, identified, Prod.mk.injEq, Option.some.injEq,
        true_and]
      constructor
      · rintro ⟨pattern, compiled, rfl, rfl⟩
        exact ⟨base, pattern, rfl, compiled, rfl, rfl⟩
      · rintro ⟨_, pattern, rfl, compiled, rfl, rfl⟩
        exact ⟨pattern, compiled, rfl, rfl⟩

/-- What a declaration makes out of the registry it is read in, before it is registered. -/
inductive Declared (engine : PatternEngine) (registry : Registry) (name : String)
    (supply rest : Supply) : Declaration → Entry → Prop
  | data {spec : Json} {fields : FieldSpecs} {type : Descriptor}
      (read : registry.fieldSpecs name spec = .ok fields)
      (made : makeRecord name fields supply = .ok (type, rest)) :
      Declared engine registry name supply rest (.data spec) (.type type)
  | union {spec : Json} {payloads : FieldSpecs} {union : Union}
      (read : registry.fieldSpecs name spec = .ok payloads)
      (made : makeUnion name payloads supply = .ok (union, rest)) :
      Declared engine registry name supply rest (.union spec) (.union union)
  | refine {refinement : Refinement} {type : Descriptor}
      (made : registry.refine engine name refinement supply = .ok (type, rest)) :
      Declared engine registry name supply rest (.refine refinement) (.type type)

/-- What is declared under a name bears that name. -/
theorem Declared.name {registry : Registry} {name : String} {supply rest : Supply}
    {declaration : Declaration} {entry : Entry}
    (declared : Declared engine registry name supply rest declaration entry) :
    entry.asType.name = name := by
  cases declared with
  | data _ made =>
    obtain ⟨_, _, _, _, rfl, _⟩ := resolve_record_eq_ok_iff.mp made
    rfl
  | union _ made =>
    obtain ⟨_, _, _, _, _, rfl, _⟩ := makeUnion_eq_ok_iff.mp made
    rfl
  | refine made =>
    obtain ⟨_, _, _, _, _, rfl, _⟩ := refine_eq_ok_iff.mp made
    rfl

theorem insert_eq_ok_iff {registry extended : Registry} {name : String} {entry : Entry} :
    registry.insert name entry = .ok extended ↔
      Table.has registry.entries name = false ∧
        extended = ⟨registry.entries ++ [(name, entry)]⟩ := by
  rw [insert]
  cases taken : Table.has registry.entries name with
  | true => simp
  | false => simp [eq_comm]

/-- What is declared is registered under the name of its declaration. -/
theorem Declared.insert_iff {registry extended : Registry} {name : String} {supply rest : Supply}
    {declaration : Declaration} {entry : Entry}
    (declared : Declared engine registry name supply rest declaration entry) :
    registry.insert entry.asType.name entry = .ok extended ↔
      Table.has registry.entries name = false ∧
        extended = ⟨registry.entries ++ [(name, entry)]⟩ := by
  rw [declared.name, insert_eq_ok_iff]

/-- A declaration is registered by writing what it makes behind everything else, under a name that
is new. -/
theorem declare_eq_ok_iff {registry extended : Registry} {name : String}
    {declaration : Declaration} {supply rest : Supply} :
    registry.declare engine name declaration supply = .ok (extended, rest) ↔
      ∃ entry, Declared engine registry name supply rest declaration entry ∧
        Table.has registry.entries name = false ∧
        extended = ⟨registry.entries ++ [(name, entry)]⟩ := by
  cases declaration with
  | data spec =>
    simp only [declare, bind_eq_ok_iff, pure_eq_ok_iff, Prod.exists, Prod.mk.injEq, insertType]
    constructor
    · rintro ⟨fields, read, type, _, made, _, inserted, rfl, rfl⟩
      have declared : Declared engine registry name supply _ (.data spec) (.type type) :=
        .data read made
      exact ⟨_, declared, declared.insert_iff.mp inserted⟩
    · rintro ⟨_, declared, new⟩
      have inserted := declared.insert_iff.mpr new
      cases declared with
      | data read made =>
        exact ⟨_, read, _, rest, made, extended, inserted, rfl, rfl⟩
  | union spec =>
    simp only [declare, bind_eq_ok_iff, pure_eq_ok_iff, Prod.exists, Prod.mk.injEq, insertUnion]
    constructor
    · rintro ⟨payloads, read, union, _, made, _, inserted, rfl, rfl⟩
      have declared : Declared engine registry name supply _ (.union spec) (.union union) :=
        .union read made
      exact ⟨_, declared, declared.insert_iff.mp inserted⟩
    · rintro ⟨_, declared, new⟩
      have inserted := declared.insert_iff.mpr new
      cases declared with
      | union read made =>
        exact ⟨_, read, _, rest, made, extended, inserted, rfl, rfl⟩
  | refine refinement =>
    simp only [declare, bind_eq_ok_iff, pure_eq_ok_iff, Prod.exists, Prod.mk.injEq, insertType]
    constructor
    · rintro ⟨type, _, made, _, inserted, rfl, rfl⟩
      have declared : Declared engine registry name supply _ (.refine refinement) (.type type) :=
        .refine made
      exact ⟨_, declared, declared.insert_iff.mp inserted⟩
    · rintro ⟨_, declared, new⟩
      have inserted := declared.insert_iff.mpr new
      cases declared with
      | refine made =>
        exact ⟨_, rest, made, extended, inserted, rfl, rfl⟩

/-! ### Declarations in a row -/

theorem declareAll_cons_eq_ok_iff {registry extended : Registry}
    {declaration : String × Declaration} {remaining : List (String × Declaration)}
    {supply rest : Supply} :
    registry.declareAll engine (declaration :: remaining) supply = .ok (extended, rest) ↔
      ∃ middle left,
        registry.declare engine declaration.1 declaration.2 supply = .ok (middle, left) ∧
        middle.declareAll engine remaining left = .ok (extended, rest) := by
  simp only [declareAll, bind_eq_ok_iff, Prod.exists]

/-- What every declaration keeps, the declarations of a file keep together. -/
theorem declareAll_invariant {Invariant : Registry → Supply → Prop}
    {declarations : List (String × Declaration)} {registry extended : Registry}
    {supply rest : Supply}
    (keeps : ∀ declaration ∈ declarations, ∀ registry supply extended rest,
      Invariant registry supply →
      registry.declare engine declaration.1 declaration.2 supply = .ok (extended, rest) →
      Invariant extended rest)
    (held : Invariant registry supply)
    (done : registry.declareAll engine declarations supply = .ok (extended, rest)) :
    Invariant extended rest := by
  induction declarations generalizing registry supply with
  | nil =>
    simp only [declareAll, Except.ok.injEq, Prod.mk.injEq] at done
    exact done.1 ▸ done.2 ▸ held
  | cons declaration remaining inductionHypothesis =>
    obtain ⟨first, others⟩ := List.forall_mem_cons.mp keeps
    obtain ⟨middle, left, declared, done⟩ := declareAll_cons_eq_ok_iff.mp done
    exact inductionHypothesis others (first registry supply middle left held declared) done

/-- What is declared in two parts is declared one part after the other. -/
theorem declareAll_append (registry : Registry) (first second : List (String × Declaration))
    (supply : Supply) :
    registry.declareAll engine (first ++ second) supply =
      registry.declareAll engine first supply >>= fun (middle, left) =>
        middle.declareAll engine second left := by
  induction first generalizing registry supply with
  | nil => rfl
  | cons declaration rest inductionHypothesis =>
    simp only [List.cons_append, declareAll, inductionHypothesis, bind_assoc]

/-- The error of a file is that of one declaration, which the ones before it have led up to. -/
theorem declareAll_eq_error_iff {registry : Registry} {declarations : List (String × Declaration)}
    {supply : Supply} {error : DefinitionError} :
    registry.declareAll engine declarations supply = .error error ↔
      ∃ earlier name declaration later middle left,
        declarations = earlier ++ (name, declaration) :: later ∧
        registry.declareAll engine earlier supply = .ok (middle, left) ∧
        middle.declare engine name declaration left = .error error := by
  constructor
  · intro failed
    induction declarations generalizing registry supply with
    | nil => cases failed
    | cons declaration rest inductionHypothesis =>
      obtain ⟨name, declared⟩ := declaration
      rw [declareAll, bind_eq_error_iff] at failed
      rcases failed with here | ⟨⟨next, remaining⟩, done, failed⟩
      · exact ⟨[], name, declared, rest, registry, supply, rfl, rfl, here⟩
      · obtain ⟨earlier, later, declaration, others, middle, left, rfl, before, here⟩ :=
          inductionHypothesis failed
        exact ⟨(name, declared) :: earlier, later, declaration, others, middle, left, rfl,
          declareAll_cons_eq_ok_iff.mpr ⟨next, remaining, done, before⟩, here⟩
  · rintro ⟨earlier, name, declaration, later, middle, left, rfl, before, here⟩
    rw [declareAll_append, before]
    show (middle.declare engine name declaration left >>= _) = _
    rw [here]
    rfl

theorem load_eq_ok_iff {registry : Registry} {file : DefinitionFile} {supply : Supply}
    {loaded : Loaded} :
    registry.load engine file supply = .ok loaded ↔
      registry.declareAll engine file.types supply = .ok (loaded.registry, loaded.supply) ∧
        loaded.names = Table.keys file.types := by
  simp only [load, bind_eq_ok_iff, pure_eq_ok_iff, Prod.exists]
  constructor
  · rintro ⟨extended, rest, declared, rfl⟩
    exact ⟨declared, rfl⟩
  · rintro ⟨declared, names⟩
    exact ⟨_, _, declared, names ▸ rfl⟩

theorem loadText_eq_ok_iff {registry : Registry} {text : String} {supply : Supply}
    {loaded : Loaded} :
    registry.loadText engine text supply = .ok loaded ↔
      ∃ file, DefinitionFile.read text = .ok file ∧
        registry.declareAll engine file.types supply = .ok (loaded.registry, loaded.supply) ∧
        loaded.names = Table.keys file.types := by
  simp only [loadText, bind_eq_ok_iff, load_eq_ok_iff]

/-- What every declaration without repeated names keeps, the loading of a text keeps. -/
theorem loadText_invariant (Invariant : Registry → Supply → Prop) {registry : Registry}
    {text : String} {supply : Supply} {loaded : Loaded}
    (keeps : ∀ name declaration registry supply extended rest, declaration.Distinct →
      Invariant registry supply →
      registry.declare engine name declaration supply = .ok (extended, rest) →
      Invariant extended rest)
    (held : Invariant registry supply) (done : registry.loadText engine text supply = .ok loaded) :
    Invariant loaded.registry loaded.supply := by
  obtain ⟨file, read, declared, _⟩ := loadText_eq_ok_iff.mp done
  refine declareAll_invariant ?_ held declared
  intro declaration member registry supply extended rest
  exact keeps _ _ registry supply extended rest
    ((DefinitionFile.read_distinct read).2 declaration member)

/-! ### Closed properties -/

/-- A property of types that declaring does not lead out of: the raw kinds have it, and whatever is
made of types that have it, as a refinement, a record or a union, has it too. -/
structure Closed (engine : PatternEngine) (Property : Descriptor → Prop) : Prop where
  primitives : ∀ kind : Primitive, Property kind.descriptor
  refined : ∀ {identity name base pattern refinement}, Property base →
    compilePattern engine name refinement = .ok pattern → crossed? refinement = none →
    Property (.scalar identity name
      (refinedPredicate base pattern refinement.minimum refinement.maximum) none
      (some (refinedSchema name base refinement)))
  record : ∀ {identity name fields}, blank name = false → (Table.keys fields).Nodup →
    (∀ field ∈ fields, blank field.1 = false) → (∀ field ∈ fields, Property field.2) →
    Property (.record identity name fields)
  union : ∀ {name payloads} (supply : Supply), blank name = false → (Table.keys payloads).Nodup →
    (∀ payload ∈ payloads, blank payload.1 = false) → (∀ payload ∈ payloads, Property payload.2) →
    Property (.sum (makeVariants payloads supply).2.draw.1 name (makeVariants payloads supply).1)

namespace Closed

variable {Property : Descriptor → Prop} (closed : Closed engine Property)

include closed

/-- A declared field over types with the property stands for such a type. -/
theorem of_resolve {spec : FieldSpec} (refers : spec.Over Property) (name : String)
    (supply : Supply) (type : Descriptor) (rest : Supply)
    (resolved : spec.resolve name supply = .ok (type, rest)) : Property type :=
  refers.of_resolve closed.primitives
    (fun _ _ _ named names written each => closed.record named names written each) name supply type
    rest resolved

/-- A union of payloads over types with the property has it. -/
theorem of_makeUnion {payloads : FieldSpecs} (refers : (FieldSpec.record payloads).Over Property)
    {name : String} {supply rest : Supply} {union : Union}
    (made : makeUnion name payloads supply = .ok (union, rest)) : Property union.asType := by
  obtain ⟨names, each⟩ := FieldSpec.over_record_iff.mp refers
  obtain ⟨_, named, types, middle, resolved, rfl, _⟩ := makeUnion_eq_ok_iff.mp made
  have aligned := resolveEach_each (fun field member => closed.of_resolve (each field member))
    resolved
  refine closed.union middle named (aligned.keys ▸ names) (resolveEach_written resolved) ?_
  intro payload member
  obtain ⟨_, _, holds⟩ := aligned.exists_first member
  exact holds

/-- What is declared over a registry of types with the property has it. -/
theorem of_declared {registry : Registry} {name : String} {supply rest : Supply}
    {declaration : Declaration} {entry : Entry} (distinct : declaration.Distinct)
    (holds : registry.Holds Property)
    (declared : Declared engine registry name supply rest declaration entry) :
    Property entry.asType := by
  cases declared with
  | data read made => exact closed.of_resolve (fieldSpecs_over holds distinct read) _ _ _ _ made
  | union read made => exact closed.of_makeUnion (fieldSpecs_over holds distinct read) made
  | refine made =>
    obtain ⟨base, pattern, found, compiled, ordered, rfl, _⟩ := refine_eq_ok_iff.mp made
    exact closed.refined (holds.type? found) compiled ordered

/-- Declarations that are registered in a row keep the property. -/
theorem declareAll {registry extended : Registry} {declarations : List (String × Declaration)}
    {supply rest : Supply} (distinct : ∀ declaration ∈ declarations, declaration.2.Distinct)
    (holds : registry.Holds Property)
    (done : registry.declareAll engine declarations supply = .ok (extended, rest)) :
    extended.Holds Property := by
  refine @declareAll_invariant _ (fun registry _ => registry.Holds Property) _ _ _ _ _ ?_ holds done
  intro declaration member registry supply extended rest holds declared
  obtain ⟨entry, made, _, rfl⟩ := declare_eq_ok_iff.mp declared
  exact holds.append declaration.1 (closed.of_declared (distinct declaration member) holds made)

/-- A text that is loaded keeps the property. -/
theorem loadText {registry : Registry} {text : String} {supply : Supply} {loaded : Loaded}
    (holds : registry.Holds Property)
    (done : registry.loadText engine text supply = .ok loaded) :
    loaded.registry.Holds Property := by
  obtain ⟨file, read, declared, _⟩ := loadText_eq_ok_iff.mp done
  exact closed.declareAll (DefinitionFile.read_distinct read).2 holds declared

end Closed

end Registry

end JsonShape
