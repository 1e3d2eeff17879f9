/-
This file shows that construction treats values that are the same in the same way: both
are constructed, to values that are the same, or both are rejected, by the same type, at
the same path, for the same reason (`Loadable.check_of_same`). What a record keeps comes
in the order of its fields, so the order in which the members came is forgotten on the
way.

The one exception is the payload of a failure, which is made from the text of the value,
and the text tells the order of the members. The statement is therefore about types in
which that payload does not occur. A refinement of it may occur, because a refinement
does not normalize.
-/

import JsonShape.Pattern.Basic
import JsonShape.Proofs.Equality
import JsonShape.Proofs.Rejections

namespace JsonShape

open Json (Same)

/-! ### Outcomes that are the same -/

/-- The rejections are for the same reason, by the same type and at the same path, of values that
are the same. -/
inductive Rejection.Same : Rejection → Rejection → Prop
  | invalid (expected : String) {first second : Json} (same : first.Same second)
      (path : List String) : Same (.invalid expected first path) (.invalid expected second path)
  | missing (expected field : String) (path : List String) :
      Same (.missing expected field path) (.missing expected field path)

theorem Rejection.Same.within {first second : Rejection} (same : first.Same second)
    (field : String) : (first.within field).Same (second.within field) := by
  cases same with
  | invalid expected same path => exact .invalid expected same (field :: path)
  | missing expected name path => exact .missing expected name (field :: path)

/-- Both constructions succeed, with results that are related, or both are rejected the same. -/
inductive SameOutcome {Result : Type} (Related : Result → Result → Prop) :
    Except Rejection Result → Except Rejection Result → Prop
  | ok {first second : Result} (related : Related first second) :
      SameOutcome Related (.ok first) (.ok second)
  | error {first second : Rejection} (same : first.Same second) :
      SameOutcome Related (.error first) (.error second)

namespace Descriptor

/-! ### Settling -/

theorem settleFields_of_same {fields : List (String × Descriptor)}
    (each : ∀ field ∈ fields, ∀ first second : Json, first.Same second →
      field.2.accepts first = true → (field.2.settle first).Same (field.2.settle second))
    {firsts seconds : List (String × Json)}
    (members : ∀ name, Option.Rel Same (Table.find? firsts name) (Table.find? seconds name))
    (accepted : acceptsFields fields firsts = true) :
    Table.Aligned (fun _ first second => first.Same second) (settleFields fields firsts)
      (settleFields fields seconds) := by
  rw [acceptsFields_iff] at accepted
  induction fields with
  | nil => exact .nil
  | cons field rest inductionHypothesis =>
    obtain ⟨name, type⟩ := field
    obtain ⟨here, others⟩ := List.forall_mem_cons.mp each
    obtain ⟨⟨value, found, acceptedHere⟩, acceptedOthers⟩ := List.forall_mem_cons.mp accepted
    have partner := members name
    rw [settleFields, settleFields, found]
    rw [found] at partner
    generalize Table.find? seconds name = second at partner ⊢
    cases partner with
    | some same =>
      exact .cons (here value _ same acceptedHere) (inductionHypothesis others acceptedOthers)

/-- The same variant accepts both values first, and settles them to values that are the same. -/
theorem settleFirst_of_same {variants : List (String × Descriptor)} {first second : Json}
    (same : first.Same second)
    (accepts : ∀ variant ∈ variants, variant.2.accepts first = variant.2.accepts second)
    (each : ∀ variant ∈ variants, variant.2.accepts first = true →
      (variant.2.settle first).Same (variant.2.settle second)) :
    (settleFirst variants first).Same (settleFirst variants second) := by
  induction variants with
  | nil => exact same
  | cons variant rest inductionHypothesis =>
    obtain ⟨acceptsHere, acceptsOthers⟩ := List.forall_mem_cons.mp accepts
    obtain ⟨here, others⟩ := List.forall_mem_cons.mp each
    rw [settleFirst, settleFirst, ← acceptsHere]
    split
    · rename_i accepted
      exact here accepted
    · exact inductionHypothesis acceptsOthers others

/-! ### Checking -/

/-- A scalar checks values alike that are normalized to values its test does not tell apart. -/
theorem check_scalar_of_same {identity : Identity} {name : String} {predicate : Predicate}
    {normalizer : Option Normalizer} {schema : Option Json} {first second : Json}
    (same : first.Same second)
    (normalizes : (normalized normalizer first).Same (normalized normalizer second))
    (tests : ∀ first second : Json, first.Same second → predicate first = predicate second) :
    SameOutcome Same ((scalar identity name predicate normalizer schema).check first).outcome
      ((scalar identity name predicate normalizer schema).check second).outcome := by
  rw [check_scalar, check_scalar, ← tests _ _ normalizes]
  split
  · exact .ok normalizes
  · exact .error (.invalid name same [])

theorem checkFields_of_same {fields : List (String × Descriptor)}
    (each : ∀ field ∈ fields, ∀ first second : Json, first.Same second →
      SameOutcome Same (field.2.check first).outcome (field.2.check second).outcome)
    (owner : String) {firsts seconds : List (String × Json)}
    (members : ∀ name, Option.Rel Same (Table.find? firsts name) (Table.find? seconds name)) :
    SameOutcome (Table.Aligned fun _ first second => first.Same second)
      (checkFields owner fields firsts).outcome (checkFields owner fields seconds).outcome := by
  induction fields with
  | nil => exact .ok .nil
  | cons field rest inductionHypothesis =>
    obtain ⟨name, type⟩ := field
    obtain ⟨here, others⟩ := List.forall_mem_cons.mp each
    have remaining := inductionHypothesis others
    have found := members name
    simp only [checkFields]
    generalize Table.find? firsts name = first, Table.find? seconds name = second at found ⊢
    cases found with
    | none => exact .error (.missing owner name [])
    | @some first second same =>
      have checked := here first second same
      dsimp only
      generalize type.check first = firstChecked, type.check second = secondChecked at checked ⊢
      obtain ⟨firstLines, firstOutcome⟩ := firstChecked
      obtain ⟨secondLines, secondOutcome⟩ := secondChecked
      cases checked with
      | error rejected => exact .error (rejected.within name)
      | ok built =>
        dsimp only
        generalize (checkFields owner rest firsts).outcome = firstOthers,
          (checkFields owner rest seconds).outcome = secondOthers at remaining ⊢
        cases remaining with
        | error rejected => exact .error rejected
        | ok aligned => exact .ok (.cons built aligned)

/-- The same variant is the first to construct either value, to values that are the same, or none
is. -/
theorem checkFirst_of_same {variants : List (String × Descriptor)} {first second : Json}
    (each : ∀ variant ∈ variants,
      SameOutcome Same (variant.2.check first).outcome (variant.2.check second).outcome) :
    Option.Rel Same (checkFirst variants first).outcome (checkFirst variants second).outcome := by
  induction variants with
  | nil => exact .none
  | cons variant rest inductionHypothesis =>
    obtain ⟨name, type⟩ := variant
    obtain ⟨here, others⟩ := List.forall_mem_cons.mp each
    have remaining := inductionHypothesis others
    simp only [checkFirst]
    generalize type.check first = firstChecked, type.check second = secondChecked at here ⊢
    obtain ⟨firstLines, firstOutcome⟩ := firstChecked
    obtain ⟨secondLines, secondOutcome⟩ := secondChecked
    cases here with
    | ok built => exact .some built
    | error _ => exact remaining

end Descriptor

/-! ### Loadable types -/

variable {engine : PatternEngine}

/-- A loadable type settles values that are the same, and that it accepts, to values that are the
same. -/
theorem Loadable.settle_of_same {type : Descriptor} (loadable : Loadable engine type)
    (first second : Json) (same : first.Same second) (accepted : type.accepts first = true) :
    (type.settle first).Same (type.settle second) := by
  induction loadable generalizing first second with
  | standard member =>
    obtain ⟨_, _, _, _, rfl⟩ := Standard.exists_scalar_of_mem_all member
    exact same
  | refined => exact same
  | @record _ _ fields names _ inductionHypothesis =>
    cases same.form with
    | @object firsts seconds members =>
      have rebuilt : Descriptor.Rebuilt _ fields firsts (Descriptor.settleFields fields firsts) :=
        Descriptor.rebuilt_settleFields accepted
      have settled := Descriptor.settleFields_of_same inductionHypothesis members accepted
      exact .object (rebuilt.keys ▸ names) settled
    | null | bool | number | string | array => cases accepted
  | variant _ inductionHypothesis => exact inductionHypothesis first second same accepted
  | sum _ each inductionHypothesis =>
    exact Descriptor.settleFirst_of_same same
      (fun variant member => (each variant member).accepts_of_same first second same)
      fun variant member => inductionHypothesis variant member first second same

theorem successPayload_of_same {first second : Json} (same : first.Same second) :
    (successPayload first).Same (successPayload second) :=
  .object (show ["ok", "value"].Nodup by decide)
    (.cons ⟨.bool true, .bool true, rfl⟩ (.cons same .nil))

/-- The standard scalars but for the payload of a failure check values that are the same alike. -/
theorem Standard.check_of_same {type : Descriptor} (standard : type ∈ Standard.all)
    (notError : type ≠ Standard.error) {first second : Json} (same : first.Same second) :
    SameOutcome Same (type.check first).outcome (type.check second).outcome := by
  have tests : ∀ first second : Json, first.Same second →
      type.accepts first = type.accepts second :=
    fun _ _ same => Standard.accepts_of_same standard same
  have absent : Json.null.Same .null := ⟨.null, .null, rfl⟩
  simp only [Standard.all, List.mem_cons, List.not_mem_nil, or_false] at standard
  rcases standard with rfl | rfl | rfl | rfl | rfl | rfl | rfl | rfl | rfl
  · exact Descriptor.check_scalar_of_same same same tests
  · exact Descriptor.check_scalar_of_same same same tests
  · exact Descriptor.check_scalar_of_same same same tests
  · exact Descriptor.check_scalar_of_same same same tests
  · exact Descriptor.check_scalar_of_same same same tests
  · exact Descriptor.check_scalar_of_same same same tests
  · exact Descriptor.check_scalar_of_same same absent tests
  · exact Descriptor.check_scalar_of_same same (successPayload_of_same same) tests
  · exact absurd rfl notError

/-- The payload of a failure does not occur in the descriptor. -/
def Descriptor.WithoutError (type : Descriptor) : Prop := type.Throughout (· ≠ Standard.error)

/-- A loadable type without the payload of a failure checks values that are the same alike. -/
theorem Loadable.check_of_same {type : Descriptor} (loadable : Loadable engine type)
    (without : type.WithoutError) (first second : Json) (same : first.Same second) :
    SameOutcome Same (type.check first).outcome (type.check second).outcome := by
  induction loadable generalizing first second with
  | standard member => exact Standard.check_of_same member without.here same
  | refined known =>
    exact Descriptor.check_scalar_of_same same same fun first second same =>
      Registry.refinedPredicate_of_same same (known.accepts_of_same first second same)
  | @record _ name fields names _ inductionHypothesis =>
    cases same.form with
    | @object firsts seconds members =>
      have checked := Descriptor.checkFields_of_same
        (fun field member => inductionHypothesis field member (without.part (.field member)))
        name members
      simp only [Descriptor.check]
      generalize outcome : (Descriptor.checkFields name fields firsts).outcome = firstOutcome,
        (Descriptor.checkFields name fields seconds).outcome = secondOutcome at checked ⊢
      cases checked with
      | ok aligned =>
        have rebuilt := (Descriptor.checkFields_eq_ok_iff name).mp outcome
        exact .ok (.object (rebuilt.keys ▸ names) aligned)
      | error rejected => exact .error rejected
    | null | bool | number | string | array => exact .error (.invalid name same [])
  | @variant _ name payload known inductionHypothesis =>
    have checked := inductionHypothesis (without.part .payload) first second same
    simp only [Descriptor.check]
    generalize (payload.check first).outcome = firstOutcome,
      (payload.check second).outcome = secondOutcome at checked ⊢
    cases checked with
    | ok built =>
      simp only [← known.accepts_of_same _ _ built]
      split
      · exact .ok built
      · exact .error (.invalid name built [])
    | error rejected => exact .error rejected
  | @sum _ name variants _ each inductionHypothesis =>
    have accepts : ∀ variant ∈ variants, variant.2.accepts first = variant.2.accepts second :=
      fun variant member => (each variant member).accepts_of_same first second same
    have checked := Descriptor.checkFirst_of_same fun variant member =>
      inductionHypothesis variant member (without.part (.variant member)) first second same
    -- Whether the value is settled or constructed does not depend on which of the two it is.
    simp only [Descriptor.check, ← Descriptor.acceptsSome_of_same accepts]
    split
    · exact .ok <| Descriptor.settleFirst_of_same same accepts fun variant member =>
        (each variant member).settle_of_same first second same
    · generalize (Descriptor.checkFirst variants first).outcome = firstOutcome,
        (Descriptor.checkFirst variants second).outcome = secondOutcome at checked ⊢
      cases checked with
      | some built => exact .ok built
      | none => exact .error (.invalid name same [])

/-! ### Construction -/

/-- Two instances of the same descriptor with values that are the same. -/
def Instance.Same (first second : Instance) : Prop :=
  first.descriptor = second.descriptor ∧ first.value.Same second.value

/-- Construction ends as checking does. -/
theorem Descriptor.construct_of_check {type : Descriptor} {first second : Json}
    (checked : SameOutcome Json.Same (type.check first).outcome (type.check second).outcome) :
    SameOutcome Instance.Same (type.construct first).outcome (type.construct second).outcome := by
  simp only [construct]
  generalize (type.check first).outcome = firstOutcome,
    (type.check second).outcome = secondOutcome at checked ⊢
  cases checked with
  | ok built => exact .ok ⟨rfl, built⟩
  | error rejected => exact .error rejected

/-- A type of a registry that was loaded from texts, or one inside such a type, has both of two
equal values as members or neither. If the payload of a failure does not occur in it, it constructs
equal values from them, or rejects both for the same reason at the same path. -/
theorem Grown.construct_of_same {registry : Registry} (grown : Grown engine registry)
    {name : String} {whole type : Descriptor} (found : registry.type? name = some whole)
    (within : type.PartOf whole) {first second : Json} (same : first.Same second) :
    type.is (.raw first) = type.is (.raw second) ∧
      ((∀ part, part.PartOf type → part ≠ Standard.error) →
        SameOutcome Instance.Same (type.construct first).outcome
          (type.construct second).outcome) := by
  have loadable := (grown.holds_loadable.type? found).part within
  refine ⟨loadable.accepts_of_same first second same, fun without => ?_⟩
  exact Descriptor.construct_of_check (loadable.check_of_same without first second same)

/-- A text with a refinement of numbers and a record with a field of it. -/
def levels : String :=
  "\x7b\"types\":\x7b\"Level\":\x7b\"refine\":\x7b\"base\":\"Number\",\"minimum\":0\x7d\x7d,
\"Gauge\":\x7b\"data\":\x7b\"level\":\"Level\",\"note\":\"Success\"\x7d\x7d\x7d\x7d"

/-- A gauge at zero. -/
def gauge : Json :=
  .object [("level", .number (.float (.zero false))),
    ("note", .object [("a", .null), ("b", .string "")])]

/-- The same with the other zero and with all members in the other order. -/
def turnedGauge : Json :=
  .object [("note", .object [("b", .string ""), ("a", .null)]),
    ("level", .number (.float (.zero true)))]

/-- The text of what is constructed from the first of them. -/
def builtGauge : String :=
  "\x7b\"level\":0.0,\"note\":\x7b\"ok\":true,\"value\":\x7b\"a\":null,\"b\":\"\"\x7d\x7d\x7d"

theorem gauge_same : gauge.Same turnedGauge where
  left := by
    refine .object (by decide) (List.forall_mem_cons.mpr ⟨.number _, ?_⟩)
    refine List.forall_mem_singleton.mpr (.object (by decide) ?_)
    exact List.forall_mem_cons.mpr ⟨.null, List.forall_mem_singleton.mpr (.string _)⟩
  right := by
    refine .object (by decide) (List.forall_mem_cons.mpr ⟨.object (by decide) ?_, ?_⟩)
    · exact List.forall_mem_cons.mpr ⟨.string _, List.forall_mem_singleton.mpr .null⟩
    · exact List.forall_mem_singleton.mpr (.number _)
  equal := by decide

/-- Neither gauge is a member yet, because a note becomes the payload of a success only when it is
constructed. Both are constructed; the notes keep the order in which they came. -/
theorem Grown.construct_of_same_gauge :
    ∃ loaded type made other, Registry.standard.loadText Pattern.engine levels .full = .ok loaded ∧
      loaded.registry.type? "Gauge" = some type ∧ gauge.Same turnedGauge ∧
      type.is (.raw gauge) = false ∧ type.is (.raw turnedGauge) = false ∧
      (∀ part, part.PartOf type → part ≠ Standard.error) ∧
      (type.construct gauge).outcome = .ok made ∧
      (type.construct turnedGauge).outcome = .ok other ∧ made.Same other ∧
      made.value.text = builtGauge := by
  have run : (do
      let loaded ← (Registry.standard.loadText Pattern.engine levels .full).toOption
      let type ← loaded.registry.type? "Gauge"
      let made ← (type.construct gauge).outcome.toOption
      return (type.is (.raw gauge),
        decide (type.Throughout fun part => part.identity ≠ .standard "Error"), made.value.text)) =
      some (false, true, builtGauge) := by
    decide +kernel
  simp only [bind, Option.bind_eq_some_iff, toOption_eq_some_iff, pure, Option.some.injEq,
    Prod.mk.injEq, decide_eq_true_eq] at run
  obtain ⟨loaded, done, type, found, made, built, refused, identities, text⟩ := run
  have without : ∀ part, part.PartOf type → part ≠ Standard.error := by
    rintro part within rfl
    exact identities Standard.error within rfl
  obtain ⟨members, constructs⟩ :=
    Grown.construct_of_same (.load .standard done) found .self gauge_same
  have outcome := constructs without
  rw [built] at outcome
  generalize builtToo : (type.construct turnedGauge).outcome = second at outcome
  cases outcome with
  | @ok _ other same =>
    exact ⟨loaded, type, made, other, done, found, gauge_same, refused, members ▸ refused, without,
      built, builtToo, same, text⟩

end JsonShape
