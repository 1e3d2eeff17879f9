/-
This file shows that construction is sound: what a descriptor constructs is accepted
by it and has its canonical form. In canonical form a record holds the declared
fields and nothing else, in the order of their declaration, at every depth and also
below variants and sums.

Construction has two routes to a value. A sum that already accepts the input settles
it, and everything else is checked; a check may settle below a sum and never the
other way round. So settling is treated first (`canonical_settle`) and checking on
top of it (`canonical_check`). Both rebuild records in the same manner, so what is
known of rebuilt records (`forall_find?_of_rebuilt`) serves the two.
-/

import JsonShape.Descriptor.Standard
import JsonShape.Proofs.Construction

namespace JsonShape

namespace Descriptor

/-! ### The canonical form -/

/-- The value has the form in which the descriptor leaves its values: a scalar's passes the test,
a record's holds exactly the declared fields in order, a variant's is canonical for the payload,
and a sum's is canonical for one of the variants. -/
inductive Canonical : Descriptor → Json → Prop
  | scalar {identity name predicate normalizer schema value} (passed : predicate value = true) :
      Canonical (.scalar identity name predicate normalizer schema) value
  | record {identity name fields members} (keys : Table.keys members = Table.keys fields)
      (each : ∀ field ∈ fields, ∀ value, Table.find? members field.1 = some value →
        Canonical field.2 value) :
      Canonical (.record identity name fields) (.object members)
  | variant {identity name payload value} (inner : Canonical payload value) :
      Canonical (.variant identity name payload) value
  | sum {identity name variants value} {variant : String × Descriptor}
      (member : variant ∈ variants) (inner : Canonical variant.2 value) :
      Canonical (.sum identity name variants) value

/-- Values in canonical form are members. -/
theorem Canonical.accepts {type : Descriptor} {value : Json} (canonical : Canonical type value) :
    type.accepts value = true := by
  induction canonical with
  | scalar passed => exact passed
  | @record identity name fields members keys _ inductionHypothesis =>
    refine accepts_record_iff.mpr ⟨members, rfl, acceptsFields_iff.mpr fun field member => ?_⟩
    have named : field.1 ∈ Table.keys members := keys ▸ List.mem_map_of_mem member
    obtain ⟨value, found⟩ := Table.exists_find?_of_mem_keys named
    exact ⟨value, found, inductionHypothesis field member value found⟩
  | variant _ inductionHypothesis => exact inductionHypothesis
  | sum member _ inductionHypothesis =>
    exact accepts_sum_iff.mpr ⟨_, member, inductionHypothesis⟩

/-! ### What settling and checking leave -/

/-- Settling a member brings it into canonical form. -/
theorem canonical_settle {type : Descriptor} (distinct : type.Distinct) {value : Json}
    (accepted : type.accepts value = true) : Canonical type (type.settle value) := by
  induction type generalizing value with
  | scalar identity name predicate normalizer schema => exact .scalar accepted
  | record identity name fields inductionHypothesis =>
    obtain ⟨members, built, rfl, settles, rebuilt⟩ := settle_record accepted
    rw [settles]
    refine .record rebuilt.keys (forall_find?_of_rebuilt distinct.names rebuilt ?_)
    rintro field member raw _ ⟨acceptedRaw, rfl⟩
    exact inductionHypothesis field member (distinct.part (.field member)) acceptedRaw
  | variant identity name payload inductionHypothesis =>
    exact .variant (inductionHypothesis (distinct.part .payload) accepted)
  | sum identity name variants inductionHypothesis =>
    obtain ⟨variant, member, _, acceptedThere, settles⟩ := settle_sum accepted
    rw [settles]
    exact .sum member
      (inductionHypothesis variant member (distinct.part (.variant member)) acceptedThere)

/-- A check that succeeds ends in canonical form. -/
theorem canonical_check {type : Descriptor} (distinct : type.Distinct) {raw value : Json}
    (checked : (type.check raw).outcome = .ok value) : Canonical type value := by
  induction type generalizing raw value with
  | scalar identity name predicate normalizer schema =>
    exact .scalar (check_scalar_eq_ok_iff.mp checked).2
  | record identity name fields inductionHypothesis =>
    obtain ⟨members, built, rfl, rfl, rebuilt⟩ := check_record_eq_ok_iff.mp checked
    refine .record rebuilt.keys (forall_find?_of_rebuilt distinct.names rebuilt ?_)
    intro field member raw value done
    exact inductionHypothesis field member (distinct.part (.field member)) done
  | variant identity name payload inductionHypothesis =>
    exact .variant (inductionHypothesis (distinct.part .payload)
      (check_variant_eq_ok_iff.mp checked).1)
  | sum identity name variants inductionHypothesis =>
    rcases check_sum_eq_ok_iff.mp checked with ⟨accepted, rfl⟩ | ⟨_, built⟩
    · have settled : Canonical _ ((Descriptor.sum identity name variants).settle raw) :=
        canonical_settle distinct accepted
      exact settled
    · obtain ⟨variant, member, done⟩ := exists_check_of_checkFirst built
      exact .sum member
        (inductionHypothesis variant member (distinct.part (.variant member)) done)

/-- What is constructed bears the descriptor as its tag, is accepted by it and is in canonical
form. Fields and variants are declared in tables, so the names of a descriptor that has come into
being are distinct. -/
theorem construct_canonical (type : Descriptor) (distinct : type.Distinct) (raw : Json)
    (made : Instance) (built : (type.construct raw).outcome = .ok made) :
    made.descriptor = type ∧ type.accepts made.value = true ∧ Canonical type made.value := by
  obtain ⟨tag, checked⟩ := construct_eq_ok_iff.mp built
  have canonical := canonical_check distinct checked
  exact ⟨tag, canonical.accepts, canonical⟩

/-- A message is built through the normalizer of a field, and the undeclared members go, also those
of the nested record. -/
theorem construct_canonical_message :
    let author : Descriptor := .record (.made 0) "Message.Report.author" [("name", Standard.string)]
    let report : Descriptor := .record (.made 1) "Message.Report"
      [("outcome", Standard.success), ("author", author)]
    let message : Descriptor := .sum (.made 3) "Message"
      [("Report", .variant (.made 2) "Report" report)]
    let raw : Json := .object [("author", .object [("age", .null), ("name", .string "Ada")]),
      ("note", .string "done"), ("outcome", .bool true)]
    let value : Json := .object
      [("outcome", .object [("ok", .bool true), ("value", .bool true)]),
        ("author", .object [("name", .string "Ada")])]
    message.accepts raw = false ∧ (message.construct raw).outcome = .ok ⟨message, value⟩ ∧
      message.accepts value = true ∧ Canonical message value := by
  intro author report message raw value
  have distinct : message.Distinct := by
    simp [message, report, author, Distinct, named, Table.keys, Standard.string, Standard.success,
      Standard.scalar]
  have built : (message.construct raw).outcome = .ok ⟨message, value⟩ := rfl
  exact ⟨rfl, built, (construct_canonical message distinct raw _ built).2⟩

end Descriptor

end JsonShape
