/-
This file shows that nested declarations are named by the keys that lead to them. Two
routines put these names together, each on its own way through the nested mappings: the
one that reads a declared field, which names its errors so, and the one that resolves
it, which names its records so. Both give the owner and the keys with points between
them (`dottedName`), so they agree at every depth (`Registry.fieldSpec_dotted`).

Reading a field succeeds or fails as reading its leaves one after the other does
(`Registry.fieldSpec_leaves`); that turns the walk through nested mappings into one
through a list, of which the first entry that fails decides. The names of records are
followed along a path, through the value and the type made from it side by side
(`Registry.named_of_resolve`).
-/

import JsonShape.Proofs.Accord
import JsonShape.Proofs.Admission
import JsonShape.Proofs.Loading
import JsonShape.Proofs.Rejections

namespace JsonShape

/-! ### Leaves -/

mutual

/-- What stands at the ends of a value, with the keys that lead there. Only objects are walked
through. -/
def Json.leaves : Json → List (List String × Json)
  | .object members => Json.leavesOf members
  | leaf => [([], leaf)]

/-- The leaves of the members, one member after the other. -/
def Json.leavesOf : List (String × Json) → List (List String × Json)
  | [] => []
  | (key, value) :: rest =>
      value.leaves.map (fun leaf => (key :: leaf.1, leaf.2)) ++ Json.leavesOf rest

end

/-- The owner and the keys with points between them. -/
def dottedName (owner : String) (path : List String) : String := ".".intercalate (owner :: path)

theorem dottedName_cons (owner key : String) (path : List String) :
    dottedName owner (key :: path) = dottedName (nestedName owner key) path := rfl

/-- What is wrong with a leaf that names no type. -/
def leafFault : Json → DefinitionFault
  | .string name => .unknownType name
  | other => .notFieldSpec other

namespace Registry

variable {registry : Registry}

/-- The leaf is the name of an entry. -/
def Names (registry : Registry) (leaf : Json) : Prop := ∃ name ∈ registry.names, leaf = .string name

/-- What a leaf declares by itself under a name. -/
def leafSpec (registry : Registry) (name : String) : Json → Except DefinitionError Unit
  | .string known =>
      if known ∈ registry.names then .ok () else .error ⟨name, leafFault (.string known)⟩
  | other => .error ⟨name, leafFault other⟩

theorem leafSpec_eq_ok_iff {name : String} {leaf : Json} :
    registry.leafSpec name leaf = .ok () ↔ registry.Names leaf := by
  cases leaf <;> simp [leafSpec, Names]

theorem leafSpec_eq_error_iff {name : String} {leaf : Json} {error : DefinitionError} :
    registry.leafSpec name leaf = .error error ↔
      ¬registry.Names leaf ∧ error = ⟨name, leafFault leaf⟩ := by
  cases leaf with
  | string known =>
    by_cases member : known ∈ registry.names
    · simp [leafSpec, Names, member]
    · simp [leafSpec, Names, member, eq_comm]
  | null | bool | number | array | object => simp [leafSpec, Names, eq_comm]

/-- What the leaves declare under the names that lead to them, one after the other. -/
def leafSpecs (registry : Registry) (owner : String) (leaves : List (List String × Json)) :
    Except DefinitionError (List Unit) :=
  leaves.mapM fun leaf => registry.leafSpec (dottedName owner leaf.1) leaf.2

theorem leafSpecs_append (owner : String) (first second : List (List String × Json)) :
    registry.leafSpecs owner (first ++ second) = do
      let before ← registry.leafSpecs owner first
      let after ← registry.leafSpecs owner second
      return before ++ after :=
  List.mapM_append

theorem leafSpecs_under (owner key : String) (leaves : List (List String × Json)) :
    registry.leafSpecs owner (leaves.map fun leaf => (key :: leaf.1, leaf.2)) =
      registry.leafSpecs (nestedName owner key) leaves :=
  List.mapM_map

theorem fieldSpecsOf_leaves {members : List (String × Json)}
    (each : ∀ member ∈ members, ∀ owner, Accord Eq (fun _ _ => True)
      (registry.fieldSpec owner member.2) (registry.leafSpecs owner member.2.leaves))
    (owner : String) :
    Accord Eq (fun _ _ => True) (registry.fieldSpecsOf owner members)
      (registry.leafSpecs owner (Json.leavesOf members)) := by
  induction members with
  | nil =>
    rw [fieldSpecsOf, Json.leavesOf]
    exact .ok trivial
  | cons member members inductionHypothesis =>
    obtain ⟨first, others⟩ := List.forall_mem_cons.mp each
    rw [fieldSpecsOf, Json.leavesOf, leafSpecs_append, leafSpecs_under]
    exact (first _).bind fun _ _ _ => (inductionHypothesis others).bind fun _ _ _ => .ok trivial

/-- A value is read as a declared field exactly if its leaves are, and fails as the first of them
does. -/
theorem fieldSpec_leaves (spec : Json) (owner : String) :
    Accord Eq (fun _ _ => True) (registry.fieldSpec owner spec)
      (registry.leafSpecs owner spec.leaves) := by
  induction spec generalizing owner with
  | object members inductionHypothesis =>
    rw [fieldSpec, Json.leaves, ← bind_pure (registry.leafSpecs owner _)]
    exact (fieldSpecsOf_leaves inductionHypothesis owner).bind fun _ _ _ => .ok trivial
  | string known =>
    have single : registry.leafSpecs owner [([], .string known)] =
        (registry.leafSpec owner (.string known)).map fun done => [done] := by
      rw [leafSpecs, List.mapM_cons, List.mapM_nil]
      rfl
    rw [fieldSpec, Json.leaves, single, leafSpec]
    · cases found : registry.type? known with
      | some type =>
        rw [if_pos (exists_type?_iff.mp ⟨type, found⟩)]
        exact .ok trivial
      | none =>
        have unknown : known ∉ registry.names := by
          intro member
          obtain ⟨type, foundToo⟩ := exists_type?_iff.mpr member
          cases found.symm.trans foundToo
        rw [if_neg unknown]
        exact .error rfl
    · intro members same
      cases same
  | null | bool | number | array => exact .error rfl

theorem exists_leafSpec_iff {name : String} {leaf : Json} :
    (∃ done, registry.leafSpec name leaf = .ok done) ↔ registry.Names leaf := by
  rw [← leafSpec_eq_ok_iff]
  exact ⟨fun ⟨_, done⟩ => done, fun done => ⟨(), done⟩⟩

theorem exists_fieldSpec_iff {spec : Json} {owner : String} :
    (∃ declared, registry.fieldSpec owner spec = .ok declared) ↔
      ∀ leaf ∈ spec.leaves, registry.Names leaf.2 := by
  rw [(fieldSpec_leaves spec owner).exists_ok_iff, leafSpecs, exists_mapM_iff]
  simp only [exists_leafSpec_iff]

theorem fieldSpec_eq_error_iff {spec : Json} {owner : String} {error : DefinitionError} :
    registry.fieldSpec owner spec = .error error ↔
      ∃ before leaf after, spec.leaves = before ++ leaf :: after ∧
        (∀ earlier ∈ before, registry.Names earlier.2) ∧ ¬registry.Names leaf.2 ∧
        error = ⟨dottedName owner leaf.1, leafFault leaf.2⟩ := by
  rw [(fieldSpec_leaves spec owner).eq_error_iff, leafSpecs, mapM_eq_error_iff]
  simp only [leafSpec_eq_error_iff, exists_leafSpec_iff]

end Registry

/-! ### Where keys lead -/

/-- What stands in a value under the keys, each in what stands under the one before it. -/
def Json.under? : Json → List String → Option Json
  | value, [] => some value
  | value, key :: path => (value.member? key).bind fun content => content.under? path

theorem Json.under?_cons_eq_some_iff {value nested : Json} {key : String} {path : List String} :
    value.under? (key :: path) = some nested ↔
      ∃ members content, value = .object members ∧ Table.find? members key = some content ∧
        content.under? path = some nested := by
  rw [under?, Option.bind_eq_some_iff]
  cases value <;> simp [member?]

namespace Descriptor

/-- The descriptor to which keys lead through the fields of records. A variant on the way, or at the
end of it, stands for its payload. -/
def under? : Descriptor → List String → Option Descriptor
  | type, [] => some type.stripped
  | type, key :: path =>
      match type.stripped with
      | record _ _ fields => (Table.find? fields key).bind fun field => field.under? path
      | _ => none

theorem under?_variant {identity : Identity} {name : String} {payload : Descriptor}
    (path : List String) : (variant identity name payload).under? path = payload.under? path := by
  cases path <;> rfl

/-- A path that leads through a type and a value leads through the type. -/
theorem under?_of_follow? {type reached : Descriptor} {raw part : Json} {path : List String}
    (leads : type.follow? raw path = some (reached, part)) : type.under? path = some reached := by
  induction path generalizing type raw with
  | nil =>
    simp only [follow?, Option.some.injEq, Prod.mk.injEq] at leads
    rw [under?, leads.1]
  | cons key path inductionHypothesis =>
    unfold follow? at leads
    unfold under?
    split at leads
    · rename_i fields members whole
      split at leads
      · rename_i field content declared found
        simp only [whole, declared, Option.bind_some]
        exact inductionHypothesis leads
      · cases leads
    · cases leads

end Descriptor

/-! ### Who expects -/

/-- The name of the type that expects another value. -/
def Rejection.expected : Rejection → String
  | invalid expected _ _ => expected
  | missing expected _ _ => expected

theorem Rejection.PointsAt.expected {type : Descriptor} {raw : Json} {rejection : Rejection}
    (points : PointsAt type raw rejection) {reached : Descriptor}
    (leads : type.under? rejection.path = some reached) : rejection.expected = reached.name := by
  cases points with
  | invalid follows _ =>
    obtain rfl := Option.some.inj ((Descriptor.under?_of_follow? follows).symm.trans leads)
    rfl
  | missing follows _ _ =>
    obtain rfl := Option.some.inj ((Descriptor.under?_of_follow? follows).symm.trans leads)
    rfl

namespace Descriptor

/-- What the type rejects at the end of the path is expected under that name. -/
def ExpectsUnder (type : Descriptor) (path : List String) (name : String) : Prop :=
  ∀ raw rejection, (type.construct raw).outcome = .error rejection → rejection.path = path →
    rejection.expected = name

/-- What stands at the end of a path expects under its own name. -/
theorem expectsUnder_of_distinct {type reached : Descriptor} (distinct : type.Distinct)
    {path : List String} (leads : type.under? path = some reached) :
    type.ExpectsUnder path reached.name := by
  rintro raw rejection failed rfl
  exact (pointsAt_of_check distinct (construct_eq_error_iff.mp failed)).1.expected leads

theorem expectsUnder_record (identity : Identity) (name : String)
    (fields : List (String × Descriptor)) : (record identity name fields).ExpectsUnder [] name := by
  intro raw rejection failed itself
  rcases check_record_eq_error_iff.mp (construct_eq_error_iff.mp failed) with
    ⟨_, rfl⟩ | ⟨members, _, fieldsFail⟩
  · rfl
  · obtain ⟨_, field, _, _, _, ⟨_, rfl⟩ | ⟨_, inner, _, _, rfl⟩⟩ :=
      checkFields_eq_error_iff.mp fieldsFail
    · rfl
    · cases inner <;> cases itself

/-- The keys lead to a record of that name with these fields, which expects under that name. -/
def NamedUnder (type : Descriptor) (path : List String) (name : String) (keys : List String) :
    Prop :=
  ∃ identity fields, type.under? path = some (.record identity name fields) ∧
    Table.keys fields = keys ∧ (record identity name fields).ExpectsUnder [] name

theorem NamedUnder.expectsUnder {type : Descriptor} {path : List String} {name : String}
    {keys : List String} (named : type.NamedUnder path name keys) (distinct : type.Distinct) :
    type.ExpectsUnder path name := by
  obtain ⟨_, _, leads, _⟩ := named
  exact expectsUnder_of_distinct distinct leads

theorem Distinct.record {identity : Identity} {name : String} {fields : List (String × Descriptor)}
    (names : (Table.keys fields).Nodup) (each : ∀ field ∈ fields, field.2.Distinct) :
    (Descriptor.record identity name fields).Distinct :=
  throughout_iff.mpr ⟨names, List.forall_mem_map.mpr each⟩

theorem Distinct.variant {identity : Identity} {name : String} {payload : Descriptor}
    (distinct : payload.Distinct) : (Descriptor.variant identity name payload).Distinct :=
  throughout_iff.mpr ⟨List.nodup_nil, fun _ member => List.mem_singleton.mp member ▸ distinct⟩

end Descriptor

/-! ### Names of nested records -/

namespace Registry

variable {registry : Registry} {owner : String} {supply rest : Supply}

/-- What is declared under a key and what is resolved there belong together. -/
theorem exists_resolved_member {members : List (String × Json)} {specs : FieldSpecs}
    {types : List (String × Descriptor)} (read : registry.fieldSpecsOf owner members = .ok specs)
    (resolved : resolveEach owner specs supply = .ok (types, rest)) {key : String} {content : Json}
    (found : Table.find? members key = some content) :
    ∃ spec type before after, registry.fieldSpec (nestedName owner key) content = .ok spec ∧
      spec.resolve (nestedName owner key) before = .ok (type, after) ∧
      Table.find? types key = some type := by
  have declared := (fieldSpecsOf_eq_ok_iff.mp read).rel_find? key
  have made := (resolveEach_aligned resolved).rel_find? key
  rw [found] at declared
  generalize Table.find? specs key = spec at declared made
  cases declared with
  | some readSpec =>
    generalize Table.find? types key = type at made
    cases made with
    | some resolvedType =>
      obtain ⟨before, after, resolvedSpec⟩ := resolvedType
      exact ⟨_, _, before, after, readSpec, resolvedSpec, rfl⟩

/-- A nested mapping becomes a record that is named by the keys that lead to it. -/
theorem named_of_resolve {path : List String} {spec : Json} {declared : FieldSpec}
    {type : Descriptor} {nested : List (String × Json)}
    (read : registry.fieldSpec owner spec = .ok declared)
    (resolved : declared.resolve owner supply = .ok (type, rest))
    (leads : spec.under? path = some (.object nested)) :
    type.NamedUnder path (dottedName owner path) (Table.keys nested) := by
  induction path generalizing owner supply rest spec declared type with
  | nil =>
    obtain rfl := Option.some.inj leads
    obtain ⟨specs, readEach, rfl⟩ := fieldSpec_object_eq_ok_iff.mp read
    obtain ⟨_, types, _, resolvedEach, rfl, _⟩ := resolve_record_eq_ok_iff.mp resolved
    refine ⟨_, types, rfl, ?_, Descriptor.expectsUnder_record _ _ _⟩
    rw [resolveEach_keys resolvedEach, (fieldSpecsOf_eq_ok_iff.mp readEach).keys]
  | cons key path inductionHypothesis =>
    obtain ⟨members, content, rfl, found, deeper⟩ := Json.under?_cons_eq_some_iff.mp leads
    obtain ⟨specs, readEach, rfl⟩ := fieldSpec_object_eq_ok_iff.mp read
    obtain ⟨_, types, _, resolvedEach, rfl, _⟩ := resolve_record_eq_ok_iff.mp resolved
    obtain ⟨inner, field, _, _, readInner, resolvedInner, foundType⟩ :=
      exists_resolved_member readEach resolvedEach found
    obtain ⟨identity, fields, reached, keys⟩ := inductionHypothesis readInner resolvedInner deeper
    refine ⟨identity, fields, ?_, keys⟩
    simp only [Descriptor.under?, Descriptor.stripped, foundType, Option.bind_some]
    exact reached

/-- A type resolved from a field without repeated names has none either, if no registered type has
any. -/
theorem distinct_of_resolve (holds : registry.Holds Descriptor.Distinct) {spec : Json}
    (distinct : spec.Distinct) {declared : FieldSpec} {type : Descriptor}
    (read : registry.fieldSpec owner spec = .ok declared)
    (resolved : declared.resolve owner supply = .ok (type, rest)) : type.Distinct := by
  refine (fieldSpec_over holds distinct owner declared read).of_resolve (fun kind => ?_)
    (fun _ _ _ _ names _ each => .record names each) owner supply type rest resolved
  cases kind <;> exact Descriptor.throughout_iff.mpr ⟨List.nodup_nil, List.forall_mem_nil _⟩

/-- A nested mapping in a payload becomes a record below the variant of the payload. -/
theorem exists_named_variant {spec : Json} {payloads : FieldSpecs} {union : Union}
    (read : registry.fieldSpec owner spec = .ok (.record payloads))
    (made : makeUnion owner payloads supply = .ok (union, rest)) {key : String}
    {path : List String} {nested : List (String × Json)}
    (leads : spec.under? (key :: path) = some (.object nested)) :
    ∃ variant, union.variant? key = some variant ∧
      variant.NamedUnder path (dottedName owner (key :: path)) (Table.keys nested) ∧
      (registry.Holds Descriptor.Distinct → spec.Distinct → variant.Distinct) := by
  obtain ⟨members, content, rfl, found, deeper⟩ := Json.under?_cons_eq_some_iff.mp leads
  obtain ⟨_, readEach, same⟩ := fieldSpec_object_eq_ok_iff.mp read
  obtain rfl := FieldSpec.record.inj same
  obtain ⟨_, _, types, middle, resolvedEach, rfl, _⟩ := makeUnion_eq_ok_iff.mp made
  obtain ⟨declared, payload, _, _, readContent, resolved, foundPayload⟩ :=
    exists_resolved_member readEach resolvedEach found
  have partners := (makeVariants_aligned types middle).rel_find? key
  rw [foundPayload] at partners
  generalize partner : Table.find? (makeVariants types middle).1 key = variant at partners
  cases partners with
  | some same =>
    obtain ⟨identity, rfl⟩ := same
    obtain ⟨turn, fields, reached, keys, expects⟩ := named_of_resolve readContent resolved deeper
    refine ⟨_, partner, ⟨turn, fields, ?_, keys, expects⟩, fun holds distinct => ?_⟩
    · rw [Descriptor.under?_variant, reached, dottedName_cons]
    · cases distinct with
      | object _ each =>
        have inside := each _ (Table.mem_of_find? found)
        exact .variant (distinct_of_resolve holds inside readContent resolved)

/-- Fields that are declared by nested mappings are named by the keys that lead to them. A value
declares a field exactly if every leaf of it, where only objects are walked through, is a string
that names an entry. Otherwise the first leaf that is none is reported, under the name of the owner
with the keys that lead to the leaf behind it: as an unknown type if it is a string, else as no
declaration of a field. And the records that are made for nested mappings, by themselves or below
the variants of a union, bear the same names, and under these names they say what they expect; so do
the whole types about values that are rejected at the end of the path. -/
theorem fieldSpec_dotted (registry : Registry) (owner : String) (spec : Json) :
    ((∃ declared, registry.fieldSpec owner spec = .ok declared) ↔
        ∀ leaf ∈ spec.leaves, ∃ name ∈ registry.names, leaf.2 = .string name) ∧
      (∀ error, registry.fieldSpec owner spec = .error error ↔
        ∃ before leaf after, spec.leaves = before ++ leaf :: after ∧
          (∀ earlier ∈ before, ∃ name ∈ registry.names, earlier.2 = .string name) ∧
          (¬∃ name ∈ registry.names, leaf.2 = .string name) ∧
          error = ⟨dottedName owner leaf.1, leafFault leaf.2⟩) ∧
      ∀ fields, registry.fieldSpec owner spec = .ok (.record fields) → ∀ supply,
        (∀ type rest, makeRecord owner fields supply = .ok (type, rest) →
          ∀ path nested, spec.under? path = some (.object nested) →
            type.NamedUnder path (dottedName owner path) (Table.keys nested) ∧
              (registry.Holds Descriptor.Distinct → spec.Distinct →
                type.ExpectsUnder path (dottedName owner path))) ∧
        ∀ union rest, makeUnion owner fields supply = .ok (union, rest) →
          ∀ key path nested, spec.under? (key :: path) = some (.object nested) →
            ∃ variant, union.variant? key = some variant ∧
              variant.NamedUnder path (dottedName owner (key :: path)) (Table.keys nested) ∧
              (registry.Holds Descriptor.Distinct → spec.Distinct →
                variant.ExpectsUnder path (dottedName owner (key :: path))) := by
  refine ⟨exists_fieldSpec_iff, fun error => fieldSpec_eq_error_iff, fun fields read supply =>
    ⟨fun type rest made path nested leads => ?_, fun union rest made key path nested leads => ?_⟩⟩
  · have named := named_of_resolve read made leads
    exact ⟨named, fun holds distinct =>
      named.expectsUnder (distinct_of_resolve holds distinct read made)⟩
  · obtain ⟨variant, found, named, distinctToo⟩ := exists_named_variant read made leads
    exact ⟨variant, found, named, fun holds distinct =>
      named.expectsUnder (distinctToo holds distinct)⟩

/-- A field with nested mappings two deep. -/
def nestedMark : Json :=
  .object [("label", .string "String"),
    ("at", .object [("x", .string "Boolean"), ("deep", .object [("y", .string "Boolean")])])]

/-- The innermost mapping becomes a record that is named by both keys, below a record and below a
variant; and of two broken leaves the first one is reported under its keys. -/
theorem fieldSpec_dotted_mark :
    (∃ fields type rest union remaining variant,
      standard.fieldSpec "Mark" nestedMark = .ok (.record fields) ∧
      makeRecord "Mark" fields .full = .ok (type, rest) ∧
      type.NamedUnder ["at", "deep"] "Mark.at.deep" ["y"] ∧
      (type.construct (.object [("label", .string "a"),
        ("at", .object [("x", .bool true), ("deep", .object [])])])).outcome =
        .error (.missing "Mark.at.deep" "y" ["at", "deep"]) ∧
      makeUnion "Mark" fields .full = .ok (union, remaining) ∧
      union.variant? "at" = some variant ∧
      variant.NamedUnder ["deep"] "Mark.at.deep" ["y"]) ∧
    standard.fieldSpec "Mark" (.object [("label", .string "String"),
        ("at", .object [("x", .string "Lost"), ("deep", .null)])]) =
      .error ⟨"Mark.at.x", .unknownType "Lost"⟩ := by
  constructor
  · obtain ⟨_, _, declares⟩ := fieldSpec_dotted standard "Mark" nestedMark
    obtain ⟨records, unions⟩ := declares _ rfl .full
    obtain ⟨variant, found, named, _⟩ := unions _ _ rfl "at" ["deep"] _ rfl
    exact ⟨_, _, _, _, _, variant, rfl, rfl, (records _ _ rfl ["at", "deep"] _ rfl).1, rfl, rfl,
      found, named⟩
  · refine ((fieldSpec_dotted standard "Mark" _).2.1 _).mpr
      ⟨[(["label"], .string "String")], (["at", "x"], .string "Lost"), [(["at", "deep"], .null)],
        rfl, ?_, ?_, rfl⟩
    · exact List.forall_mem_singleton.mpr ⟨"String", by decide, rfl⟩
    · rintro ⟨name, member, same⟩
      obtain rfl := Json.string.inj same
      revert member
      decide

end Registry

end JsonShape
