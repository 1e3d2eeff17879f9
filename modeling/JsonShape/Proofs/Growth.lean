/-
This file shows that members which a type does not ask for do no harm. A value grows
when members are added to its objects, at any depth and in any order (`Json.Grows`),
and a loadable type accepts whatever a value that it accepts grows into
(`Loadable.accepts_of_grows`).

This does not hold of every descriptor, because the test of a scalar may be anything.
It holds of the standard scalars, which look at the kind of a value and at named
members, and a refinement adds nothing to its base but questions about strings and
numbers, which do not grow.

Settling goes the other way. It only takes members away, so a settled value grows
into the one it was settled from (`Descriptor.settle_grows`).
-/

import JsonShape.Pattern.Basic
import JsonShape.Proofs.Construction
import JsonShape.Proofs.Loadable

namespace JsonShape

namespace Json

/-- The second value is the first one with members added to its objects, at any depth. The order
of the members does not count, and arrays keep their length. -/
inductive Grows : Json → Json → Prop
  | same (value : Json) : Grows value value
  | array {smalls larges : List Json} (length : smalls.length = larges.length)
      (each : ∀ (index : Nat) (small large : Json), smalls[index]? = some small →
        larges[index]? = some large → Grows small large) :
      Grows (.array smalls) (.array larges)
  | object {smalls larges : List (String × Json)}
      (keys : ∀ name ∈ Table.keys smalls, name ∈ Table.keys larges)
      (each : ∀ name small large, Table.find? smalls name = some small →
        Table.find? larges name = some large → Grows small large) :
      Grows (.object smalls) (.object larges)

namespace Grows

variable {small large : Json}

/-- An object grows into an object that has each of its members, grown. -/
theorem find? {smalls : List (String × Json)} (grows : Grows (.object smalls) large) :
    ∃ larges, large = .object larges ∧ ∀ name value, Table.find? smalls name = some value →
      ∃ grown, Table.find? larges name = some grown ∧ Grows value grown := by
  cases grows with
  | same => exact ⟨smalls, rfl, fun name value found => ⟨value, found, .same value⟩⟩
  | @object _ larges keys each =>
    refine ⟨larges, rfl, fun name value found => ?_⟩
    have named := Table.mem_keys_of_find? found
    obtain ⟨grown, foundGrown⟩ := Table.exists_find?_of_mem_keys (keys name named)
    exact ⟨grown, foundGrown, each name value grown found foundGrown⟩

/-- An object grows into one that has each of its members, grown. -/
theorem of_members {smalls larges : List (String × Json)}
    (each : ∀ member ∈ smalls, ∃ grown, Table.find? larges member.1 = some grown ∧
      Grows member.2 grown) : Grows (.object smalls) (.object larges) := by
  refine .object (fun name named => ?_) fun name small large foundSmall foundLarge => ?_
  · obtain ⟨member, there, rfl⟩ := List.mem_map.mp named
    obtain ⟨_, found, _⟩ := each member there
    exact Table.mem_keys_of_find? found
  · obtain ⟨grown, found, grows⟩ := each (name, small) (Table.mem_of_find? foundSmall)
    exact Option.some.inj (found.symm.trans foundLarge) ▸ grows

/-- A member that is there stays there, grown. -/
theorem member? (grows : Grows small large) {name : String} {value : Json}
    (found : small.member? name = some value) :
    ∃ grown, large.member? name = some grown ∧ Grows value grown := by
  cases small with
  | object smalls =>
    obtain ⟨larges, rfl, each⟩ := grows.find?
    exact each name value found
  | null | bool | number | string | array => cases found

theorem isString_eq (grows : Grows small large) : large.isString = small.isString := by
  cases grows <;> rfl

theorem isNumber_eq (grows : Grows small large) : large.isNumber = small.isNumber := by
  cases grows <;> rfl

theorem isObject_eq (grows : Grows small large) : large.isObject = small.isObject := by
  cases grows <;> rfl

theorem isBoolean_eq (grows : Grows small large) : large.isBoolean = small.isBoolean := by
  cases grows <;> rfl

theorem isArray_eq (grows : Grows small large) : large.isArray = small.isArray := by
  cases grows <;> rfl

theorem isNothing_eq (grows : Grows small large) : large.isNothing = small.isNothing := by
  cases grows <;> rfl

theorem isSomething_eq (grows : Grows small large) : large.isSomething = small.isSomething := by
  rw [isSomething, isSomething, grows.isNothing_eq]

theorem string?_eq (grows : Grows small large) : large.string? = small.string? := by
  cases grows <;> rfl

theorem binary64?_eq (grows : Grows small large) : large.binary64? = small.binary64? := by
  cases grows <;> rfl

/-- A truth value stays what it is. -/
theorem eq_of_bool {value : Bool} (grows : Grows (.bool value) large) : large = .bool value := by
  cases grows
  rfl

end Grows

end Json

/-! ### Standard scalars -/

theorem isSuccess_iff {value : Json} :
    isSuccess value = true ↔
      value.member? "ok" = some (.bool true) ∧
        ∃ content, value.member? "value" = some content ∧ content.isSomething = true := by
  rw [isSuccess, Bool.and_eq_true]
  refine and_congr ?_ ?_
  · split
    · rename_i flag found
      simp [found]
    · rename_i other
      simp only [Bool.false_eq_true, false_iff]
      exact other true
  · cases found : value.member? "value" with
    | none => simp
    | some content => simp

theorem isFailure_iff {value : Json} :
    isFailure value = true ↔
      value.member? "ok" = some (.bool false) ∧
        ∃ content, value.member? "error" = some content ∧ content.isString = true := by
  rw [isFailure, Bool.and_eq_true]
  refine and_congr ?_ ?_
  · split
    · rename_i flag found
      simp [found]
    · rename_i other
      simp only [Bool.false_eq_true, false_iff]
      exact other false
  · cases found : value.member? "error" with
    | none => simp
    | some content => simp

theorem isSuccess_of_grows {small large : Json} (grows : small.Grows large)
    (accepted : isSuccess small = true) : isSuccess large = true := by
  obtain ⟨flag, content, found, present⟩ := isSuccess_iff.mp accepted
  obtain ⟨grownFlag, foundFlag, flagGrows⟩ := grows.member? flag
  obtain ⟨grown, foundGrown, contentGrows⟩ := grows.member? found
  rw [flagGrows.eq_of_bool] at foundFlag
  rw [← contentGrows.isSomething_eq] at present
  exact isSuccess_iff.mpr ⟨foundFlag, grown, foundGrown, present⟩

theorem isFailure_of_grows {small large : Json} (grows : small.Grows large)
    (accepted : isFailure small = true) : isFailure large = true := by
  obtain ⟨flag, content, found, text⟩ := isFailure_iff.mp accepted
  obtain ⟨grownFlag, foundFlag, flagGrows⟩ := grows.member? flag
  obtain ⟨grown, foundGrown, contentGrows⟩ := grows.member? found
  rw [flagGrows.eq_of_bool] at foundFlag
  rw [← contentGrows.isString_eq] at text
  exact isFailure_iff.mpr ⟨foundFlag, grown, foundGrown, text⟩

/-- The standard scalars accept what their members grow into. -/
theorem Standard.accepts_of_grows {type : Descriptor} (standard : type ∈ Standard.all)
    {small large : Json} (grows : small.Grows large) (accepted : type.accepts small = true) :
    type.accepts large = true := by
  simp only [Standard.all, List.mem_cons, List.not_mem_nil, or_false] at standard
  rcases standard with rfl | rfl | rfl | rfl | rfl | rfl | rfl | rfl | rfl
  · exact grows.isString_eq.trans accepted
  · exact grows.isNumber_eq.trans accepted
  · exact grows.isBoolean_eq.trans accepted
  · exact grows.isArray_eq.trans accepted
  · exact grows.isObject_eq.trans accepted
  · exact grows.isSomething_eq.trans accepted
  · exact grows.isNothing_eq.trans accepted
  · exact isSuccess_of_grows grows accepted
  · exact isFailure_of_grows grows accepted

/-! ### Loadable types -/

namespace Registry

/-- What a refinement asks of a value besides its base is not changed by growth. -/
theorem patternHolds_of_grows {pattern : Option Matcher} {small large : Json}
    (grows : small.Grows large) : patternHolds pattern large = patternHolds pattern small := by
  unfold patternHolds
  rw [grows.string?_eq]

theorem boundHolds_of_grows {bound : Option Binary64} {test : Binary64 → Binary64 → Bool}
    {small large : Json} (grows : small.Grows large) :
    boundHolds bound test large = boundHolds bound test small := by
  unfold boundHolds
  rw [grows.binary64?_eq]

theorem refinedPredicate_eq_true_iff {base : Descriptor} {pattern : Option Matcher}
    {minimum maximum : Option Binary64} {value : Json} :
    refinedPredicate base pattern minimum maximum value = true ↔
      base.accepts value = true ∧ patternHolds pattern value = true ∧
        boundHolds minimum (fun bound number => bound.le number) value = true ∧
        boundHolds maximum (fun bound number => number.le bound) value = true := by
  rw [refinedPredicate, Bool.and_eq_true, Bool.and_eq_true, Bool.and_eq_true, and_assoc, and_assoc]

end Registry

variable {engine : PatternEngine}

/-- A loadable type accepts what its members grow into. -/
theorem Loadable.accepts_of_grows {type : Descriptor} (loadable : Loadable engine type)
    {small large : Json} (grows : small.Grows large) (accepted : type.accepts small = true) :
    type.accepts large = true := by
  induction loadable generalizing small large with
  | standard member => exact Standard.accepts_of_grows member grows accepted
  | refined _ _ _ inductionHypothesis =>
    obtain ⟨inBase, matched, above, below⟩ := Registry.refinedPredicate_eq_true_iff.mp accepted
    refine Registry.refinedPredicate_eq_true_iff.mpr
      ⟨inductionHypothesis grows inBase, ?_, ?_, ?_⟩
    · rw [Registry.patternHolds_of_grows grows]
      exact matched
    · rw [Registry.boundHolds_of_grows grows]
      exact above
    · rw [Registry.boundHolds_of_grows grows]
      exact below
  | record _ _ inductionHypothesis =>
    obtain ⟨smalls, rfl, acceptedFields⟩ := Descriptor.accepts_record_iff.mp accepted
    obtain ⟨larges, rfl, grown⟩ := grows.find?
    rw [Descriptor.acceptsFields_iff] at acceptedFields
    refine Descriptor.accepts_record_iff.mpr ⟨larges, rfl, ?_⟩
    refine Descriptor.acceptsFields_iff.mpr fun field member => ?_
    obtain ⟨value, found, acceptedValue⟩ := acceptedFields field member
    obtain ⟨larger, foundLarger, valueGrows⟩ := grown field.1 value found
    exact ⟨larger, foundLarger, inductionHypothesis field member valueGrows acceptedValue⟩
  | variant _ inductionHypothesis => exact inductionHypothesis grows accepted
  | sum _ _ inductionHypothesis =>
    obtain ⟨variant, member, acceptedThere⟩ := Descriptor.accepts_sum_iff.mp accepted
    exact Descriptor.accepts_sum_iff.mpr
      ⟨variant, member, inductionHypothesis variant member grows acceptedThere⟩

/-! ### Settling -/

/-- A settled value grows into the value it was settled from. -/
theorem Descriptor.settle_grows {type : Descriptor} {value : Json}
    (accepted : type.accepts value = true) : (type.settle value).Grows value := by
  induction type generalizing value with
  | scalar identity name predicate normalizer schema => exact .same value
  | record identity name fields inductionHypothesis =>
    obtain ⟨members, built, rfl, settles, rebuilt⟩ := settle_record accepted
    rw [settles]
    -- What was settled under a name was made from the member of that name.
    refine .of_members fun entry member => ?_
    obtain ⟨type, field, raw, found, acceptedRaw, settled⟩ := rebuilt.exists_first member
    exact ⟨raw, found, settled ▸ inductionHypothesis (entry.1, type) field acceptedRaw⟩
  | variant identity name payload inductionHypothesis => exact inductionHypothesis accepted
  | sum identity name variants inductionHypothesis =>
    obtain ⟨variant, member, _, acceptedThere, settles⟩ := settle_sum accepted
    rw [settles]
    exact inductionHypothesis variant member acceptedThere

/-! ### Members of loaded types -/

/-- A type of a registry that was loaded from texts, or one inside such a type, accepts whatever a
value that it accepts grows into. So it accepts a value already if it accepts what another type that
accepts the value settles it to. -/
theorem Grown.is_of_grows {registry : Registry} (grown : Grown engine registry) {name : String}
    {whole type : Descriptor} (found : registry.type? name = some whole)
    (within : type.PartOf whole) :
    (∀ small large : Json, small.Grows large → type.is (.raw small) = true →
        type.is (.raw large) = true) ∧
      ∀ (other : Descriptor) (value : Json), other.is (.raw value) = true →
        type.is (.raw (other.settle value)) = true → type.is (.raw value) = true := by
  have loadable := (grown.holds_loadable.type? found).part within
  simp only [Descriptor.is_raw]
  exact ⟨fun small large grows => loadable.accepts_of_grows grows,
    fun other value accepted => loadable.accepts_of_grows (Descriptor.settle_grows accepted)⟩

/-- A text with a bounded number, and a record of one with a result. -/
def gauges : String :=
  "\x7b\"types\": \x7b
    \"Level\": \x7b\"refine\": \x7b\"base\": \"Number\", \"minimum\": 0\x7d\x7d,
    \"Gauge\": \x7b\"data\": \x7b\"level\": \"Level\", \"last\": \"Result\"\x7d\x7d\x7d\x7d"

/-- A gauge stays one with a unit beside its level and a note inside its last result, in whatever
order. A settled gauge that has lost its unit again is one as well. -/
theorem Grown.is_of_grows_gauge :
    let level : Json := .number (.float (.zero false))
    let last : Json := .object [("ok", .bool true), ("value", .array [])]
    let noted : Json := .object [("note", .null), ("value", .array []), ("ok", .bool true)]
    let small : Json := .object [("level", level), ("last", last)]
    let large : Json := .object [("last", noted), ("unit", .string "bar"), ("level", level)]
    let reading : Descriptor := .record (.made 0) "Reading"
      [("level", Standard.any), ("last", Standard.object)]
    ∃ loaded gauge, Registry.standard.loadText Pattern.engine gauges .full = .ok loaded ∧
      loaded.registry.type? "Gauge" = some gauge ∧ small.Grows large ∧
      gauge.is (.raw small) = true ∧ gauge.is (.raw large) = true ∧
      reading.is (.raw large) = true ∧
      reading.settle large = .object [("level", level), ("last", noted)] ∧
      gauge.is (.raw (reading.settle large)) = true := by
  intro level last noted small large reading
  have run : (do
      let loaded ← (Registry.standard.loadText Pattern.engine gauges .full).toOption
      let gauge ← loaded.registry.type? "Gauge"
      return (gauge.is (.raw small), gauge.is (.raw (reading.settle large)))) =
      some (true, true) := by
    decide +kernel
  simp only [bind, Option.bind_eq_some_iff, toOption_eq_some_iff, pure, Option.some.injEq,
    Prod.mk.injEq] at run
  obtain ⟨loaded, done, gauge, found, member, settled⟩ := run
  have grows : small.Grows large := by
    have grown : last.Grows noted := .of_members (List.forall_mem_cons.mpr
      ⟨⟨_, rfl, .same _⟩, List.forall_mem_singleton.mpr ⟨_, rfl, .same _⟩⟩)
    exact .of_members (List.forall_mem_cons.mpr
      ⟨⟨level, rfl, .same level⟩, List.forall_mem_singleton.mpr ⟨noted, rfl, grown⟩⟩)
  have isOfGrows := Grown.is_of_grows (.load .standard done) found .self
  have accepted : reading.is (.raw large) = true := rfl
  have first := isOfGrows.1 small large grows member
  exact ⟨loaded, gauge, done, found, grows, member, first, accepted, rfl, settled⟩

end JsonShape
