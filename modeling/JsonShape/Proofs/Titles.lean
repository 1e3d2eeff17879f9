/-
This file says what can be relied on in every schema, of whatever type and however the
type came about. A schema is an object, so whoever writes a title or a bound into one that
was made before always finds a place for it (`Schema.Formed`). It bears the name
of its type as the title, even where it was taken over from a payload or a base with a
title of its own; only the standard scalars have none. And a record is described by the
schemas of its fields, in the order of declaration, wherever in a schema it is described.

The form of a schema is proved along the ways in which types come about
(`Descriptor.Obtainable.formed`), because a refinement keeps the schema of its base and
nothing of the base itself. Where a part is described is followed through the type and its
schema side by side (`Descriptor.DescribedAt`): below a variant only the title changes, and
everything else leads to the schemas of the parts themselves.
-/

import JsonShape.Pattern.Basic
import JsonShape.Proofs.Obtainable
import JsonShape.Proofs.Schemas

namespace JsonShape

/-! ### Writing into a schema -/

namespace Schema

/-- The schema is an object, and no keyword occurs twice in it. -/
def Formed (schema : Json) : Prop :=
  ∃ clauses, schema = .object clauses ∧ (Table.keys clauses).Nodup

section Writing

variable {schema content : Json} {keyword : String}

theorem Formed.withMember (formed : Formed schema) :
    Formed (schema.withMember keyword content) := by
  obtain ⟨clauses, rfl, distinct⟩ := formed
  exact ⟨_, rfl, Table.nodup_keys_insert clauses keyword content distinct⟩

/-- What is written into an object is there. -/
theorem Formed.member?_withMember_self (formed : Formed schema) :
    (schema.withMember keyword content).member? keyword = some content := by
  obtain ⟨clauses, rfl, _⟩ := formed
  exact Table.find?_insert_self clauses keyword content

theorem member?_withMember_other {other : String} (different : keyword ≠ other) :
    (schema.withMember keyword content).member? other = schema.member? other := by
  cases schema with
  | object clauses => exact Table.find?_insert_other clauses keyword other content different
  | null | bool | number | string | array => rfl

theorem Formed.optionalMember {content : Option Json} (formed : Formed schema) :
    Formed (Registry.optionalMember schema keyword content) := by
  cases content with
  | none => exact formed
  | some content => exact formed.withMember

theorem member?_optionalMember_other {content : Option Json} {other : String}
    (different : keyword ≠ other) :
    (Registry.optionalMember schema keyword content).member? other = schema.member? other := by
  cases content with
  | none => rfl
  | some content => exact member?_withMember_other different

end Writing

theorem Formed.refinedSchema {base : Descriptor} (formed : Formed base.schema) (name : String)
    (refinement : Refinement) : Formed (Registry.refinedSchema name base refinement) :=
  formed.withMember.optionalMember.optionalMember.optionalMember

/-- The name of a refinement takes the place of the title of its base. -/
theorem Formed.title_refinedSchema {base : Descriptor} (formed : Formed base.schema) (name : String)
    (refinement : Refinement) :
    (Registry.refinedSchema name base refinement).member? "title" = some (.string name) := by
  rw [Registry.refinedSchema, member?_optionalMember_other (by decide),
    member?_optionalMember_other (by decide), member?_optionalMember_other (by decide)]
  exact formed.member?_withMember_self

/-- The schema gives each field its own schema, in the order of declaration, and requires all of
them in the same order; if there is none, it requires nothing. -/
structure ListsFields (fields : List (String × Descriptor)) (schema : Json) : Prop where
  names : (Table.keys fields).Nodup
  properties : schema.member? "properties" =
    some (.object (fields.map fun field => (field.1, field.2.schema)))
  required : schema.member? "required" =
    if fields.isEmpty then none else some (.array (fields.map fun field => .string field.1))

end Schema

open Schema

variable {engine : PatternEngine}

namespace Descriptor

theorem member?_record_schema {identity : Identity} {name : String}
    {fields : List (String × Descriptor)} (keyword : String) :
    (record identity name fields).schema.member? keyword =
      Table.find? ([("title", .string name), ("type", .string "object"),
        ("properties", .object (fields.map fun field => (field.1, field.2.schema)))] ++
        requiredClause fields) keyword := by
  rw [schema, schemaOfFields_eq_map]
  rfl

theorem formed_record {identity : Identity} {name : String} {fields : List (String × Descriptor)} :
    Formed (record identity name fields).schema := by
  refine ⟨_, rfl, ?_⟩
  unfold requiredClause
  split <;> simp [Table.keys]

theorem listsFields_record {identity : Identity} {name : String}
    {fields : List (String × Descriptor)} (distinct : (Table.keys fields).Nodup) :
    ListsFields fields (record identity name fields).schema where
  names := distinct
  properties := member?_record_schema "properties"
  required := by
    rw [member?_record_schema, requiredClause]
    split <;> rfl

theorem member?_sum_schema {identity : Identity} {name : String}
    {variants : List (String × Descriptor)} :
    (sum identity name variants).schema.member? "oneOf" =
      some (.array (variants.map fun variant => variant.2.schema)) := by
  rw [schema, schemaOfVariants_eq_map]
  rfl

/-! ### The schemas of obtainable types -/

namespace Obtainable

theorem formed_standardPool {type : Descriptor} (member : type ∈ standardPool) :
    Formed type.schema := by
  simp only [standardPool, Standard.all, List.cons_append, List.nil_append, List.mem_cons,
    List.not_mem_nil, or_false] at member
  rcases member with rfl | rfl | rfl | rfl | rfl | rfl | rfl | rfl | rfl | rfl | rfl | rfl | rfl |
    rfl | rfl
  all_goals exact ⟨_, rfl, by decide⟩

/-- The schema of an obtainable type is an object. -/
theorem formed {type : Descriptor} (obtainable : type.Obtainable engine) : Formed type.schema := by
  induction obtainable with
  | standard member => exact formed_standardPool member
  | scalar => exact ⟨_, rfl, List.nodup_singleton _⟩
  | refined _ _ _ inductionHypothesis => exact inductionHypothesis.refinedSchema _ _
  | record => exact formed_record
  | variant _ _ inductionHypothesis => exact inductionHypothesis.withMember
  | union => exact ⟨_, rfl, by simp [Table.keys]⟩

/-- The title of an obtainable type is its name, unless it is a standard scalar. -/
theorem title {type : Descriptor} (obtainable : type.Obtainable engine)
    (own : type ∉ Standard.all) : type.schema.member? "title" = some (.string type.name) := by
  cases obtainable with
  | standard member =>
    rcases List.mem_append.mp member with scalar | built
    · exact absurd scalar own
    · simp only [List.mem_cons, List.not_mem_nil, or_false] at built
      rcases built with rfl | rfl | rfl | rfl | rfl | rfl <;> rfl
  | scalar => rfl
  | refined known => exact known.formed.title_refinedSchema _ _
  | record => exact member?_record_schema "title"
  | variant _ known => exact known.formed.member?_withMember_self
  | union => rfl

end Obtainable

/-! ### Where a part is described -/

/-- The schema is what stands for the part in the schema of the type: the whole schema for the type
itself, the content under its name among the properties for a field, what stands for a variant for
its payload too, and the branch in its turn for a variant of a sum. -/
inductive DescribedAt (type : Descriptor) : Descriptor → Json → Prop
  | whole : DescribedAt type type type.schema
  | field {identity : Identity} {name : String} {fields : List (String × Descriptor)}
      {schema content : Json} {properties : List (String × Json)} {field : String × Descriptor}
      (around : DescribedAt type (.record identity name fields) schema)
      (given : schema.member? "properties" = some (.object properties)) (declared : field ∈ fields)
      (found : Table.find? properties field.1 = some content) : DescribedAt type field.2 content
  | payload {identity : Identity} {name : String} {payload : Descriptor} {schema : Json}
      (around : DescribedAt type (.variant identity name payload) schema) :
      DescribedAt type payload schema
  | variant {identity : Identity} {name : String} {variants : List (String × Descriptor)}
      {schema content : Json} {branches : List Json} {turn : Nat} {variant : String × Descriptor}
      (around : DescribedAt type (.sum identity name variants) schema)
      (given : schema.member? "oneOf" = some (.array branches))
      (declared : variants[turn]? = some variant) (found : branches[turn]? = some content) :
      DescribedAt type variant.2 content

/-- The schema is an object with the clauses of the descriptor's own schema, up to the title. -/
structure SchemaUpToTitle (part : Descriptor) (schema : Json) : Prop where
  formed : Formed schema
  same : ∀ keyword, keyword ≠ "title" → schema.member? keyword = part.schema.member? keyword

/-- The title has no part in the list of the fields. -/
theorem SchemaUpToTitle.listsFields {identity : Identity} {name : String}
    {fields : List (String × Descriptor)} {schema : Json}
    (upToTitle : SchemaUpToTitle (record identity name fields) schema)
    (distinct : (Table.keys fields).Nodup) : ListsFields fields schema := by
  have own : ListsFields fields (record identity name fields).schema :=
    listsFields_record distinct
  exact ⟨distinct, (upToTitle.same "properties" (by decide)).trans own.properties,
    (upToTitle.same "required" (by decide)).trans own.required⟩

theorem find?_properties {fields : List (String × Descriptor)} {field : String × Descriptor}
    (distinct : (Table.keys fields).Nodup) (declared : field ∈ fields) :
    Table.find? (fields.map fun field => (field.1, field.2.schema)) field.1 =
      some field.2.schema := by
  have names : Table.keys (fields.map fun field => (field.1, field.2.schema)) = Table.keys fields :=
    List.map_map
  exact Table.find?_of_mem (names ▸ distinct)
    (List.mem_map_of_mem (f := fun field => (field.1, field.2.schema)) declared)

section DescribedAt

variable {type : Descriptor} (distinct : type.Distinct)
  (formed : type.Throughout fun part => Formed part.schema)

include distinct formed

/-- What is described in a schema is a part of the type, and its own schema stands there up to the
title. -/
theorem DescribedAt.upToTitle {part : Descriptor} {schema : Json}
    (described : DescribedAt type part schema) :
    part.PartOf type ∧ SchemaUpToTitle part schema := by
  -- A part whose schema stands there in full.
  have inFull : ∀ {part : Descriptor}, part.PartOf type →
      part.PartOf type ∧ SchemaUpToTitle part part.schema :=
    fun within => ⟨within, formed _ within, fun _ _ => rfl⟩
  induction described with
  | whole => exact inFull .self
  | @field identity name fields _ content _ field _ given declared found inductionHypothesis =>
    obtain ⟨within, upToTitle⟩ := inductionHypothesis
    have names : (Table.keys fields).Nodup := (distinct.part within).names
    rw [(upToTitle.listsFields names).properties, Option.some.injEq, Json.object.injEq] at given
    rw [← given, find?_properties names declared, Option.some.injEq] at found
    exact found ▸ inFull ((PartOf.field declared).trans within)
  | payload _ inductionHypothesis =>
    obtain ⟨within, upToTitle⟩ := inductionHypothesis
    refine ⟨PartOf.payload.trans within, upToTitle.formed, fun keyword other => ?_⟩
    exact (upToTitle.same keyword other).trans (member?_withMember_other (Ne.symm other))
  | @variant identity name variants _ content _ turn variant _ given declared found
      inductionHypothesis =>
    obtain ⟨within, upToTitle⟩ := inductionHypothesis
    rw [upToTitle.same "oneOf" (by decide), member?_sum_schema, Option.some.injEq,
      Json.array.injEq] at given
    rw [← given, List.getElem?_map, declared, Option.map_some, Option.some.injEq] at found
    exact found ▸ inFull ((PartOf.variant (List.mem_of_getElem? declared)).trans within)

/-- What a described part is directly built from is described as well. -/
theorem DescribedAt.exists_child {part child : Descriptor} {schema : Json}
    (described : DescribedAt type part schema) (direct : child ∈ part.children) :
    ∃ schema, DescribedAt type child schema := by
  obtain ⟨within, upToTitle⟩ := described.upToTitle distinct formed
  cases part with
  | scalar => cases direct
  | record identity name fields =>
    obtain ⟨field, declared, rfl⟩ := List.mem_map.mp direct
    have names : (Table.keys fields).Nodup := (distinct.part within).names
    have given := (upToTitle.listsFields names).properties
    exact ⟨_, .field described given declared (find?_properties names declared)⟩
  | variant identity name payload =>
    obtain rfl := List.mem_singleton.mp direct
    exact ⟨schema, .payload described⟩
  | sum identity name variants =>
    obtain ⟨variant, member, rfl⟩ : ∃ variant ∈ variants, variant.2 = child :=
      List.mem_map.mp direct
    obtain ⟨turn, declared⟩ := List.mem_iff_getElem?.mp member
    have given := (upToTitle.same "oneOf" (by decide)).trans member?_sum_schema
    refine ⟨variant.2.schema, .variant described given declared ?_⟩
    rw [List.getElem?_map, declared, Option.map_some]

/-- Every part of a type is described somewhere in its schema. -/
theorem DescribedAt.exists_of_part {part : Descriptor} (within : part.PartOf type) :
    ∃ schema, DescribedAt type part schema := by
  -- Being described goes over from any part to what the part is directly built from.
  refine @PartOf.inherits (fun part => ∃ schema, DescribedAt type part schema) ?_ _ _ within
    ⟨_, .whole⟩
  rintro outer ⟨_, described⟩ child direct
  exact described.exists_child distinct formed direct

end DescribedAt

/-- The schema can be relied on: it is an object with the name for its title, unless the type is a
standard scalar; every part is described in it, and where a record is, its fields are listed. -/
structure WellDescribed (type : Descriptor) : Prop where
  formed : Formed type.schema
  title : type ∉ Standard.all → type.schema.member? "title" = some (.string type.name)
  described : ∀ part, part.PartOf type → ∃ schema, DescribedAt type part schema
  records : ∀ identity name fields schema,
    DescribedAt type (.record identity name fields) schema → ListsFields fields schema

theorem Obtainable.wellDescribed {type : Descriptor} (obtainable : type.Obtainable engine)
    (distinct : type.Distinct) : type.WellDescribed := by
  have formed : type.Throughout fun part => Formed part.schema :=
    fun _ within => (obtainable.part within).formed
  refine ⟨obtainable.formed, obtainable.title, fun _ within =>
    DescribedAt.exists_of_part distinct formed within,
    fun identity name fields schema described => ?_⟩
  obtain ⟨within, upToTitle⟩ := described.upToTitle distinct formed
  exact upToTitle.listsFields (distinct.part within).names

end Descriptor

/-! ### Schemas in a session -/

namespace Session

open Descriptor (DescribedAt Obtainable WellDescribed)

/-- The registry as it stands during a load, when some of the declarations have been registered. No
object in them has a repeated name, as in every file that is read
(`DefinitionFile.read_distinct`). -/
def Stages (engine : PatternEngine) (session : Session) (staged : Registry) : Prop :=
  ∃ registry ∈ session.registries, ∃ declarations rest,
    (∀ declaration ∈ declarations, declaration.2.Distinct) ∧
      registry.declareAll engine declarations session.supply = .ok (staged, rest)

/-- Also during a load, only obtainable types are registered. -/
theorem Stages.holds_obtainable {session : Session} (reachable : Reachable engine session)
    {staged : Registry} (stages : session.Stages engine staged) :
    staged.Holds (Obtainable engine) := by
  obtain ⟨registry, held, declarations, rest, distinct, declared⟩ := stages
  have holds : registry.Holds (Obtainable engine) := fun entry member =>
    reachable.obtainable
      ⟨_, Or.inr (Or.inr (Or.inr ⟨registry, held, entry, member, rfl⟩)), .self⟩
  exact Obtainable.closed.declareAll distinct holds declared

/-- In a session that can be reached, the schema of every known type can be relied on. What is
written into a schema that was made before, the name of a variant into that of its payload and the
keywords of a refinement into that of its base, is written into an object. -/
theorem schemas_titled (session : Session) (reachable : Reachable engine session) :
    (∀ type, session.Knows type → type.WellDescribed) ∧
      (∀ identity name payload, session.Knows (.variant identity name payload) →
        Formed payload.schema) ∧
      ∀ staged, session.Stages engine staged → ∀ name base, staged.type? name = some base →
        Formed base.schema := by
  refine ⟨fun type known => ?_, fun identity name payload known => ?_,
    fun staged stages name base found => ?_⟩
  · obtain ⟨pool, backed⟩ := reachable.backed
    exact (reachable.obtainable known).wellDescribed (backed.coherent.distinct (backed.known known))
  · exact ((reachable.obtainable known).part .payload).formed
  · exact ((stages.holds_obtainable reachable).type? found).formed

/-- A sheet is filled in or excused. The record for the filled ones is described in the branch of
its variant, under the title of the variant. In a load that declares a bounded number, this number
can be the base of what follows. -/
theorem schemas_titled_sheet :
    let fields := [("owner", Standard.string), ("grade", Standard.number)]
    let card : Descriptor := .record (.made 0) "Sheet.Filled" fields
    let filled : Descriptor := .variant (.made 1) "Filled" card
    let excused : Descriptor := .variant (.made 2) "Excused" Standard.string
    let sheet : Union := ⟨.made 3, "Sheet", [("Filled", filled), ("Excused", excused)]⟩
    let session : Session := start.hold sheet.asType ⟨4⟩
    let declarations : List (String × Declaration) :=
      [("Points", .refine ⟨"Number", none, some (.zero false), none⟩)]
    Reachable Pattern.engine session ∧ session.Knows sheet.asType ∧ sheet.asType ∉ Standard.all ∧
      Formed sheet.asType.schema ∧
      sheet.asType.schema.member? "title" = some (.string "Sheet") ∧
      DescribedAt sheet.asType card filled.schema ∧ ListsFields fields filled.schema ∧
      session.Knows filled ∧ Formed card.schema ∧
      ∃ staged rest points,
        Registry.standard.declareAll Pattern.engine declarations ⟨4⟩ = .ok (staged, rest) ∧
        session.Stages Pattern.engine staged ∧ staged.type? "Points" = some points ∧
        Formed points.schema := by
  intro fields card filled excused sheet session declarations
  have refers : (FieldSpec.record [("Filled", .record [("owner", .primitive .string),
      ("grade", .primitive .number)]), ("Excused", .primitive .string)]).Over start.Knows := by
    refine FieldSpec.over_record_iff.mpr ⟨by decide, List.forall_mem_cons.mpr
      ⟨FieldSpec.over_record_iff.mpr ⟨by decide, ?_⟩,
        List.forall_mem_singleton.mpr (.primitive .string)⟩⟩
    exact List.forall_mem_cons.mpr
      ⟨.primitive .string, List.forall_mem_singleton.mpr (.primitive .number)⟩
  have done : makeUnion "Sheet" [("Filled", .record [("owner", .primitive .string),
      ("grade", .primitive .number)]), ("Excused", .primitive .string)] start.supply =
      .ok (sheet, ⟨4⟩) := rfl
  have reachable : Reachable Pattern.engine session := .step .start (.makeUnion refers done)
  have knows : session.Knows sheet.asType := .of_held List.mem_cons_self
  have knowsFilled : session.Knows filled := knows.part (.inside List.mem_cons_self .self)
  have own : sheet.asType ∉ Standard.all := fun standard =>
    absurd (List.mem_map_of_mem (f := Descriptor.name) standard) (by decide)
  have run : (do
      let declared ← (Registry.standard.declareAll Pattern.engine declarations ⟨4⟩).toOption
      return (declared.1.type? "Points").isSome) = some true := by
    decide +kernel
  simp only [bind, Option.bind_eq_some_iff, toOption_eq_some_iff, pure, Option.some.injEq,
    Option.isSome_iff_exists] at run
  obtain ⟨⟨staged, rest⟩, declared, points, found⟩ := run
  have stages : session.Stages Pattern.engine staged :=
    ⟨.standard, by simp [session, hold, start], declarations, rest,
      List.forall_mem_singleton.mpr trivial, declared⟩
  have described : DescribedAt sheet.asType card filled.schema :=
    .payload (@DescribedAt.variant _ _ _ _ _ _ _ 0 ("Filled", filled) .whole rfl rfl rfl)
  obtain ⟨well, payload, base⟩ := schemas_titled session reachable
  exact ⟨reachable, knows, own, (well _ knows).formed, (well _ knows).title own, described,
    (well _ knows).records _ _ _ _ described, knowsFilled, payload _ _ _ knowsFilled,
    staged, rest, points, declared, stages, found, base staged stages _ _ found⟩

end Session

end JsonShape
