/-
This file says what a declaration stands for, identities aside, as a function of nothing
but its JSON and of what the names in it stand for (`Declaration.denoted?`). Declaring
goes through declared fields, resolving and a supply of identities, and it ends in what
the function says (`Registry.Declared.denoted`).

The function makes declarations comparable across registries. It asks for the names that
the declaration refers to and for no others (`Declaration.denoted?_mono`), so what is
declared later does not change what a declaration stands for, and after a load every
declaration of the file stands, in the registry it has become part of, for the entry
that was made of it (`Registry.declareAll_denoted`).
-/

import JsonShape.Proofs.Admission
import JsonShape.Proofs.Anonymous

namespace JsonShape

/-! ### What declarations stand for -/

mutual

/-- The type that a declared field of that name stands for, identities aside, if every name in it
stands for the type that is known under it. -/
def Json.denoted? (known : String → Option Descriptor) (name : String) : Json → Option Descriptor
  | .string other => known other
  | .object members => (Json.denotedEach? known name members).map (.record .effaced name)
  | _ => none

/-- The types that the declared fields of an owner stand for. -/
def Json.denotedEach? (known : String → Option Descriptor) (owner : String) :
    List (String × Json) → Option (List (String × Descriptor))
  | [] => some []
  | (key, field) :: rest => do
      let type ← field.denoted? known (nestedName owner key)
      let types ← Json.denotedEach? known owner rest
      return (key, type) :: types

end

/-- The types that the fields of a mapping stand for. -/
def Json.denotedFields? (known : String → Option Descriptor) (owner : String) :
    Json → Option (List (String × Descriptor))
  | .object members => Json.denotedEach? known owner members
  | _ => none

/-- A variant for each payload, identities aside. -/
def effacedVariants (payloads : List (String × Descriptor)) : List (String × Descriptor) :=
  payloads.map fun payload => (payload.1, .variant .effaced payload.1 payload.2)

/-- The entry that a declaration of that name stands for, identities aside. -/
def Declaration.denoted? (engine : PatternEngine) (known : String → Option Descriptor)
    (name : String) : Declaration → Option Entry
  | .data spec =>
      (spec.denotedFields? known name).map fun fields => .type (.record .effaced name fields)
  | .union spec =>
      (spec.denotedFields? known name).map fun payloads =>
        .union ⟨.effaced, name, effacedVariants payloads⟩
  | .refine refinement => do
      let base ← known refinement.base
      let pattern ← (Registry.compilePattern engine name refinement).toOption
      return .type (.scalar .effaced name
        (Registry.refinedPredicate base pattern refinement.minimum refinement.maximum) none
        (some (Registry.refinedSchema name base refinement)))

variable {engine : PatternEngine}

/-- The entry with all identities effaced. -/
def Entry.anonymous : Entry → Entry
  | .type content => .type content.anonymous
  | .union content => .union ⟨.effaced, content.name, Descriptor.anonymousEach content.variants⟩

theorem Entry.asType_anonymous (entry : Entry) :
    entry.anonymous.asType = entry.asType.anonymous := by
  cases entry <;> rfl

/-- Entries that differ in nothing but identities are alike as types. -/
theorem Entry.alike_of_anonymous_eq {first second : Entry}
    (same : first.anonymous = second.anonymous) : first.asType.Alike second.asType :=
  Descriptor.alike_of_anonymous_eq
    (first.asType_anonymous ▸ second.asType_anonymous ▸ congrArg Entry.asType same)

/-- The type a name stands for in a registry, identities aside. -/
def Registry.anonymous? (registry : Registry) (name : String) : Option Descriptor :=
  (registry.type? name).map Descriptor.anonymous

/-! ### What they depend on -/

section Known

variable {known wider : String → Option Descriptor}

theorem Json.denotedEach?_eq_some_iff {owner : String} {members : List (String × Json)}
    {types : List (String × Descriptor)} :
    denotedEach? known owner members = some types ↔
      Table.Aligned (fun key field type => field.denoted? known (nestedName owner key) = some type)
        members types := by
  induction members generalizing types with
  | nil =>
    rw [denotedEach?, Table.Aligned.nil_iff, Option.some.injEq]
    exact eq_comm
  | cons member rest inductionHypothesis =>
    obtain ⟨key, field⟩ := member
    rw [denotedEach?, Table.Aligned.cons_iff]
    simp only [bind, Option.bind_eq_some_iff, pure, Option.some.injEq, inductionHypothesis]
    constructor
    · rintro ⟨type, first, others, remaining, rfl⟩
      exact ⟨type, others, first, remaining, rfl⟩
    · rintro ⟨type, others, first, remaining, rfl⟩
      exact ⟨type, first, others, remaining, rfl⟩

/-- Fields that each keep standing for what they stand for do so together. -/
theorem Json.denotedEach?_mono {members : List (String × Json)}
    (each : ∀ member ∈ members, ∀ name type, member.2.denoted? known name = some type →
      member.2.denoted? wider name = some type)
    {owner : String} {types : List (String × Descriptor)}
    (denotes : denotedEach? known owner members = some types) :
    denotedEach? wider owner members = some types :=
  denotedEach?_eq_some_iff.mpr <|
    (denotedEach?_eq_some_iff.mp denotes).imp fun member entry => each member entry _

/-- A declared field keeps standing for a type as long as the names that it refers to do. -/
theorem Json.denoted?_mono {spec : Json}
    (agree : ∀ other, spec.RefersTo other → ∀ type, known other = some type →
      wider other = some type)
    (name : String) (type : Descriptor) (denotes : spec.denoted? known name = some type) :
    spec.denoted? wider name = some type := by
  induction spec generalizing name type with
  | string other => exact agree other .here type denotes
  | object members inductionHypothesis =>
    rw [denoted?, Option.map_eq_some_iff] at denotes ⊢
    obtain ⟨types, each, rfl⟩ := denotes
    refine ⟨types, denotedEach?_mono (fun member entry => ?_) each, rfl⟩
    exact inductionHypothesis member entry fun other refers => agree other (.inside entry refers)
  | null | bool | number | array => cases denotes

theorem Json.denotedFields?_mono {spec : Json}
    (agree : ∀ other, spec.RefersTo other → ∀ type, known other = some type →
      wider other = some type)
    {owner : String} {types : List (String × Descriptor)}
    (denotes : spec.denotedFields? known owner = some types) :
    spec.denotedFields? wider owner = some types := by
  cases spec with
  | object members =>
    refine denotedEach?_mono (fun member entry => ?_) denotes
    exact denoted?_mono fun other refers => agree other (.inside entry refers)
  | null | bool | number | string | array => cases denotes

/-- A declaration keeps standing for an entry as long as the names that it refers to do. -/
theorem Declaration.denoted?_mono {declaration : Declaration}
    (agree : ∀ other, declaration.RefersTo other → ∀ type, known other = some type →
      wider other = some type)
    {name : String} {entry : Entry}
    (denotes : declaration.denoted? engine known name = some entry) :
    declaration.denoted? engine wider name = some entry := by
  cases declaration with
  | data spec =>
    rw [denoted?, Option.map_eq_some_iff] at denotes ⊢
    obtain ⟨fields, each, rfl⟩ := denotes
    exact ⟨fields, Json.denotedFields?_mono (fun other refers => agree other (.data refers)) each,
      rfl⟩
  | union spec =>
    rw [denoted?, Option.map_eq_some_iff] at denotes ⊢
    obtain ⟨payloads, each, rfl⟩ := denotes
    exact ⟨payloads,
      Json.denotedFields?_mono (fun other refers => agree other (.union refers)) each, rfl⟩
  | refine refinement =>
    simp only [denoted?, bind, Option.bind_eq_some_iff] at denotes ⊢
    obtain ⟨base, found, made⟩ := denotes
    exact ⟨base, agree refinement.base (.refine rfl) base found, made⟩

end Known

/-! ### What is made of them -/

namespace Registry

variable {registry : Registry}

/-- The types that are made of declared fields are those that the fields stand for. -/
theorem fieldSpecsOf_denoted {members : List (String × Json)}
    (each : ∀ member ∈ members, ∀ name spec supply type rest,
      registry.fieldSpec name member.2 = .ok spec →
      spec.resolve name supply = .ok (type, rest) →
      member.2.denoted? registry.anonymous? name = some type.anonymous)
    {owner : String} {specs : List (String × FieldSpec)} {supply rest : Supply}
    {types : List (String × Descriptor)}
    (read : registry.fieldSpecsOf owner members = .ok specs)
    (resolved : resolveEach owner specs supply = .ok (types, rest)) :
    Json.denotedEach? registry.anonymous? owner members =
      some (Descriptor.anonymousEach types) := by
  rw [Json.denotedEach?_eq_some_iff]
  induction members generalizing specs supply types with
  | nil =>
    obtain rfl := Table.Aligned.nil_iff.mp (fieldSpecsOf_eq_ok_iff.mp read)
    simp only [resolveEach, Except.ok.injEq, Prod.mk.injEq] at resolved
    exact resolved.1 ▸ .nil
  | cons member members inductionHypothesis =>
    obtain ⟨first, others⟩ := List.forall_mem_cons.mp each
    obtain ⟨spec, remaining, readFirst, readOthers, rfl⟩ :=
      Table.Aligned.cons_iff.mp (fieldSpecsOf_eq_ok_iff.mp read)
    obtain ⟨_, type, middle, rest, made, madeOthers, rfl⟩ :=
      resolveEach_cons_eq_ok_iff.mp resolved
    exact .cons (first _ _ _ _ _ readFirst made)
      (inductionHypothesis others (fieldSpecsOf_eq_ok_iff.mpr readOthers) madeOthers)

/-- The type that is made of a declared field is the one that the field stands for. -/
theorem fieldSpec_denoted (json : Json) (name : String) (spec : FieldSpec) (supply : Supply)
    (type : Descriptor) (rest : Supply) (read : registry.fieldSpec name json = .ok spec)
    (resolved : spec.resolve name supply = .ok (type, rest)) :
    json.denoted? registry.anonymous? name = some type.anonymous := by
  induction json generalizing name spec supply type rest with
  | string other =>
    rw [fieldSpec] at read
    split at read
    · rename_i known found
      obtain rfl := Except.ok.inj read
      simp only [FieldSpec.resolve, Except.ok.injEq, Prod.mk.injEq] at resolved
      rw [Json.denoted?, anonymous?, found, resolved.1, Option.map_some]
    · cases read
  | object members inductionHypothesis =>
    obtain ⟨specs, readEach, rfl⟩ := fieldSpec_object_eq_ok_iff.mp read
    obtain ⟨_, types, middle, resolvedEach, rfl, _⟩ := resolve_record_eq_ok_iff.mp resolved
    rw [Json.denoted?, fieldSpecsOf_denoted inductionHypothesis readEach resolvedEach]
    rfl
  | null | bool | number | array => cases read

theorem fieldSpecs_denoted {spec : Json} {owner : String} {specs : FieldSpecs}
    {supply rest : Supply} {types : List (String × Descriptor)}
    (read : registry.fieldSpecs owner spec = .ok specs)
    (resolved : resolveEach owner specs supply = .ok (types, rest)) :
    spec.denotedFields? registry.anonymous? owner = some (Descriptor.anonymousEach types) := by
  cases spec with
  | object members =>
    exact fieldSpecsOf_denoted (fun member _ => fieldSpec_denoted member.2) read resolved
  | null | bool | number | string | array => cases read

/-- The variants that are made for payloads are those that the payloads stand for. -/
theorem anonymousEach_makeVariants (payloads : List (String × Descriptor)) (supply : Supply) :
    Descriptor.anonymousEach (makeVariants payloads supply).1 =
      effacedVariants (Descriptor.anonymousEach payloads) := by
  induction payloads generalizing supply with
  | nil => rfl
  | cons payload rest inductionHypothesis =>
    have others := inductionHypothesis supply.draw.2
    exact congrArg (List.cons _) others

/-- A refinement asks its base for nothing but membership and the schema. -/
theorem refinedPredicate_congr {base other : Descriptor} (alike : base.Alike other) :
    refinedPredicate base = refinedPredicate other := by
  funext pattern minimum maximum value
  rw [refinedPredicate, refinedPredicate, alike.accepts]

theorem refinedSchema_congr {base other : Descriptor} (alike : base.Alike other) (name : String) :
    refinedSchema name base = refinedSchema name other := by
  funext refinement
  rw [refinedSchema, refinedSchema, alike.schema]

/-- What is made of a declaration is what the declaration stands for. -/
theorem Declared.denoted {name : String} {supply rest : Supply} {declaration : Declaration}
    {entry : Entry} (declared : Declared engine registry name supply rest declaration entry) :
    declaration.denoted? engine registry.anonymous? name = some entry.anonymous := by
  cases declared with
  | data read made =>
    obtain ⟨_, types, middle, resolved, rfl, _⟩ := resolve_record_eq_ok_iff.mp made
    rw [Declaration.denoted?, fieldSpecs_denoted read resolved]
    rfl
  | union read made =>
    obtain ⟨_, _, types, middle, resolved, rfl, _⟩ := makeUnion_eq_ok_iff.mp made
    rw [Declaration.denoted?, fieldSpecs_denoted read resolved, Entry.anonymous,
      anonymousEach_makeVariants]
    rfl
  | refine made =>
    obtain ⟨base, pattern, found, compiled, _, rfl, _⟩ := refine_eq_ok_iff.mp made
    rw [Declaration.denoted?, anonymous?, found, compiled]
    show some (Entry.type (.scalar .effaced name (refinedPredicate base.anonymous _ _ _) none
      (some (refinedSchema name base.anonymous _)))) = _
    rw [refinedPredicate_congr base.alike_anonymous, refinedSchema_congr base.alike_anonymous]
    rfl

/-! ### Declarations in a row -/

theorem anonymous?_of_find? {name : String} {entry : Entry}
    (found : registry.find? name = some entry) :
    registry.anonymous? name = some entry.anonymous.asType := by
  rw [anonymous?, type?, found, Option.map_some, Option.map_some, Entry.asType_anonymous]

theorem find?_append {registry extended : Registry} {added : Table Entry}
    (behind : extended.entries = registry.entries ++ added) {name : String} {entry : Entry}
    (found : registry.find? name = some entry) : extended.find? name = some entry := by
  rw [find?] at found ⊢
  rw [behind, Table.find?_append, found, Option.some_or]

theorem find?_of_new {name : String} {entry : Entry}
    (new : Table.has registry.entries name = false) :
    (Registry.mk (registry.entries ++ [(name, entry)])).find? name = some entry := by
  have absent : Table.find? registry.entries name = none :=
    (Table.find?_eq_none_iff _ _).mpr (has_eq_false_iff.mp new)
  rw [find?, Table.find?_append, absent, Option.none_or, Table.find?, if_pos rfl]

/-- A known name stands for the same in a registry that was extended. -/
theorem anonymous?_append {registry extended : Registry} {added : Table Entry}
    (behind : extended.entries = registry.entries ++ added) {name : String} {type : Descriptor}
    (known : registry.anonymous? name = some type) : extended.anonymous? name = some type := by
  obtain ⟨content, named, rfl⟩ := Option.map_eq_some_iff.mp known
  obtain ⟨entry, found, rfl⟩ := Option.map_eq_some_iff.mp named
  rw [anonymous?_of_find? (find?_append behind found), Entry.asType_anonymous]

/-- In the end, every declaration stands for the entry that is registered under its name. -/
theorem declareAll_denoted {extended : Registry} {declarations : List (String × Declaration)}
    {supply rest : Supply}
    (done : registry.declareAll engine declarations supply = .ok (extended, rest)) :
    ∀ declared ∈ declarations, ∃ entry, extended.find? declared.1 = some entry ∧
      declared.2.denoted? engine extended.anonymous? declared.1 = some entry.anonymous := by
  induction declarations generalizing registry supply with
  | nil => exact List.forall_mem_nil _
  | cons declaration remaining inductionHypothesis =>
    obtain ⟨middle, left, declared, done⟩ := declareAll_cons_eq_ok_iff.mp done
    refine List.forall_mem_cons.mpr ⟨?_, inductionHypothesis done⟩
    obtain ⟨entry, made, new, rfl⟩ := declare_eq_ok_iff.mp declared
    obtain ⟨added, behind, _⟩ := declareAll_adds done
    -- The names that the declaration refers to stand for the same before it and in the end.
    have lasting : ∀ other type, registry.anonymous? other = some type →
        extended.anonymous? other = some type :=
      fun other type known => anonymous?_append behind (anonymous?_append rfl known)
    exact ⟨entry, find?_append behind (find?_of_new new),
      Declaration.denoted?_mono (fun other _ => lasting other) made.denoted⟩

end Registry

end JsonShape
