/-
This file looks at descriptors without their identities. Two descriptors are alike if
they bear the same name and accept, settle, check and describe in the same way
(`Descriptor.Alike`). What a descriptor does to a value depends on what its parts do and
on nothing else about them, so descriptors of the same form over parts that are alike
are alike again.

No routine of a descriptor asks for its identity. The descriptor in which all identities
are effaced is therefore alike (`Descriptor.alike_anonymous`), and descriptors that
differ in identities only are alike (`Descriptor.alike_of_anonymous_eq`).
-/

import JsonShape.Descriptor.Construction
import JsonShape.Descriptor.Schema
import JsonShape.Proofs.Aligned
import JsonShape.Proofs.Parts

namespace JsonShape

namespace Descriptor

/-! ### Descriptors that are alike -/

/-- The descriptors have the same name and do the same to every value. -/
structure Alike (first second : Descriptor) : Prop where
  name : first.name = second.name
  accepts : first.accepts = second.accepts
  settle : first.settle = second.settle
  check : first.check = second.check
  schema : first.schema = second.schema

/-- The tables hold the same names in the same order with descriptors that are alike. -/
abbrev AlikeEach : List (String × Descriptor) → List (String × Descriptor) → Prop :=
  Table.Aligned fun _ first second => first.Alike second

namespace Alike

variable {first second : Descriptor}

theorem symm (alike : first.Alike second) : second.Alike first where
  name := alike.name.symm
  accepts := alike.accepts.symm
  settle := alike.settle.symm
  check := alike.check.symm
  schema := alike.schema.symm

theorem trans {third : Descriptor} (alike : first.Alike second) (further : second.Alike third) :
    first.Alike third where
  name := alike.name.trans further.name
  accepts := alike.accepts.trans further.accepts
  settle := alike.settle.trans further.settle
  check := alike.check.trans further.check
  schema := alike.schema.trans further.schema

/-- What is constructed through one of the descriptors, or why nothing is, is the same as through
the other one, but for the tag. -/
theorem construct (alike : first.Alike second) (raw : Json) :
    (first.construct raw).lines = (second.construct raw).lines ∧
      (first.construct raw).outcome.map Instance.value =
        (second.construct raw).outcome.map Instance.value := by
  simp only [Descriptor.construct, alike.check, alike.name]
  cases (second.check raw).outcome with
  | ok value => exact ⟨rfl, rfl⟩
  | error rejection => exact ⟨rfl, rfl⟩

end Alike

/-! ### Fields and variants that are alike -/

section Each

variable {firsts seconds : List (String × Descriptor)}

theorem acceptsFields_congr (alike : AlikeEach firsts seconds) :
    acceptsFields firsts = acceptsFields seconds := by
  induction alike with
  | nil => rfl
  | cons head _ inductionHypothesis =>
    funext members
    rw [acceptsFields, acceptsFields, head.accepts, inductionHypothesis]

theorem acceptsSome_congr (alike : AlikeEach firsts seconds) :
    acceptsSome firsts = acceptsSome seconds := by
  induction alike with
  | nil => rfl
  | cons head _ inductionHypothesis =>
    funext value
    rw [acceptsSome, acceptsSome, head.accepts, inductionHypothesis]

theorem settleFields_congr (alike : AlikeEach firsts seconds) :
    settleFields firsts = settleFields seconds := by
  induction alike with
  | nil => rfl
  | cons head _ inductionHypothesis =>
    funext members
    rw [settleFields, settleFields, head.settle, inductionHypothesis]

theorem settleFirst_congr (alike : AlikeEach firsts seconds) :
    settleFirst firsts = settleFirst seconds := by
  induction alike with
  | nil => rfl
  | cons head _ inductionHypothesis =>
    funext value
    rw [settleFirst, settleFirst, head.accepts, head.settle, inductionHypothesis]

theorem checkFields_congr (alike : AlikeEach firsts seconds) (owner : String) :
    checkFields owner firsts = checkFields owner seconds := by
  induction alike with
  | nil => rfl
  | cons head _ inductionHypothesis =>
    funext members
    simp only [checkFields, head.check, head.name, inductionHypothesis]

theorem checkFirst_congr (alike : AlikeEach firsts seconds) :
    checkFirst firsts = checkFirst seconds := by
  induction alike with
  | nil => rfl
  | cons head _ inductionHypothesis =>
    funext raw
    simp only [checkFirst, head.check, inductionHypothesis]

theorem schemaOfFields_congr (alike : AlikeEach firsts seconds) :
    schemaOfFields firsts = schemaOfFields seconds := by
  induction alike with
  | nil => rfl
  | cons head _ inductionHypothesis =>
    rw [schemaOfFields, schemaOfFields, head.schema, inductionHypothesis]

theorem schemaOfVariants_congr (alike : AlikeEach firsts seconds) :
    schemaOfVariants firsts = schemaOfVariants seconds := by
  induction alike with
  | nil => rfl
  | cons head _ inductionHypothesis =>
    rw [schemaOfVariants, schemaOfVariants, head.schema, inductionHypothesis]

/-- What is required of a record is told by the names of its fields. -/
theorem requiredClause_eq (fields : List (String × Descriptor)) :
    requiredClause fields =
      if (Table.keys fields).isEmpty then []
      else [("required", .array ((Table.keys fields).map Json.string))] := by
  have names : fields.map (fun field => Json.string field.1) =
      (Table.keys fields).map Json.string :=
    List.map_map.symm
  rw [requiredClause, names, Table.keys, List.isEmpty_map]

theorem requiredClause_congr (alike : AlikeEach firsts seconds) :
    requiredClause firsts = requiredClause seconds := by
  rw [requiredClause_eq, requiredClause_eq, alike.keys]

end Each

/-! ### The four forms -/

namespace Alike

variable {identity other : Identity} {name : String}

theorem scalar {predicate : Predicate} {normalizer : Option Normalizer} {schema : Option Json} :
    (Descriptor.scalar identity name predicate normalizer schema).Alike
      (.scalar other name predicate normalizer schema) where
  name := rfl
  accepts := rfl
  settle := rfl
  check := rfl
  schema := by cases schema <;> rfl

theorem record {firsts seconds : List (String × Descriptor)} (alike : AlikeEach firsts seconds) :
    (Descriptor.record identity name firsts).Alike (.record other name seconds) where
  name := rfl
  accepts := by
    funext value
    cases value <;> simp only [Descriptor.accepts, acceptsFields_congr alike]
  settle := by
    funext value
    cases value <;> simp only [Descriptor.settle, settleFields_congr alike]
  check := by
    funext raw
    cases raw <;> simp only [Descriptor.check, checkFields_congr alike]
  schema := by
    simp only [Descriptor.schema, schemaOfFields_congr alike, requiredClause_congr alike]

theorem variant {first second : Descriptor} (alike : first.Alike second) :
    (Descriptor.variant identity name first).Alike (.variant other name second) where
  name := rfl
  accepts := by
    funext value
    rw [Descriptor.accepts, Descriptor.accepts, alike.accepts]
  settle := by
    funext value
    rw [Descriptor.settle, Descriptor.settle, alike.settle]
  check := by
    funext raw
    simp only [Descriptor.check, alike.check, alike.accepts]
  schema := by
    rw [Descriptor.schema, Descriptor.schema, alike.schema]

theorem sum {firsts seconds : List (String × Descriptor)} (alike : AlikeEach firsts seconds) :
    (Descriptor.sum identity name firsts).Alike (.sum other name seconds) where
  name := rfl
  accepts := by
    funext value
    rw [Descriptor.accepts, Descriptor.accepts, acceptsSome_congr alike]
  settle := by
    funext value
    rw [Descriptor.settle, Descriptor.settle, settleFirst_congr alike]
  check := by
    funext raw
    simp only [Descriptor.check, acceptsSome_congr alike, settleFirst_congr alike,
      checkFirst_congr alike]
  schema := by
    rw [Descriptor.schema, Descriptor.schema, schemaOfVariants_congr alike]

end Alike

end Descriptor

/-! ### Effacing identities -/

/-- The identity that is put in the place of all others. -/
def Identity.effaced : Identity := .made 0

namespace Descriptor

mutual

/-- The descriptor with all identities effaced. -/
def anonymous : Descriptor → Descriptor
  | scalar _ name predicate normalizer schema =>
      scalar .effaced name predicate normalizer schema
  | record _ name fields => record .effaced name (anonymousEach fields)
  | variant _ name payload => variant .effaced name payload.anonymous
  | sum _ name variants => sum .effaced name (anonymousEach variants)

/-- The fields of a record or the variants of a sum with all identities effaced. -/
def anonymousEach : List (String × Descriptor) → List (String × Descriptor)
  | [] => []
  | (name, type) :: rest => (name, type.anonymous) :: anonymousEach rest

end

theorem alikeEach_anonymousEach {entries : List (String × Descriptor)}
    (each : ∀ entry ∈ entries, entry.2.Alike entry.2.anonymous) :
    AlikeEach entries (anonymousEach entries) := by
  induction entries with
  | nil => exact .nil
  | cons entry rest inductionHypothesis =>
    obtain ⟨first, others⟩ := List.forall_mem_cons.mp each
    exact .cons first (inductionHypothesis others)

/-- Without identities a descriptor does what it does with them. -/
theorem alike_anonymous (type : Descriptor) : type.Alike type.anonymous := by
  induction type with
  | scalar => exact .scalar
  | record _ _ _ inductionHypothesis => exact .record (alikeEach_anonymousEach inductionHypothesis)
  | variant _ _ _ inductionHypothesis => exact .variant inductionHypothesis
  | sum _ _ _ inductionHypothesis => exact .sum (alikeEach_anonymousEach inductionHypothesis)

/-- Descriptors that differ in nothing but identities are alike. -/
theorem alike_of_anonymous_eq {first second : Descriptor}
    (same : first.anonymous = second.anonymous) : first.Alike second :=
  first.alike_anonymous.trans (same ▸ second.alike_anonymous.symm)

end Descriptor

end JsonShape
