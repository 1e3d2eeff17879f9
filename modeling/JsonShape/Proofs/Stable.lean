/-
This file shows that what was constructed stays where it is. A type in which nothing
is normalized gives its own values back unchanged when they are constructed again
(`Grown.construct_idempotent`), and a union dispatches a member to one and the same
variant before it is constructed, after it, and as an instance (`Grown.dispatch_stable`).

Both could fail because construction drops undeclared members, and the value that is
left could suit an earlier variant of some union inside, which would take it for its
own. It does not, because loadable types never accept a value on account of a member
that it lacks (`Loadable.firstAccepting_settle`).

The instance bears the identity of the union and not that of a variant. It is
dispatched by its value all the same, because a union never shares the identity of
one of its variants (`Grown.holds_apart`).
-/

import JsonShape.Pattern.Basic
import JsonShape.Proofs.Plain
import JsonShape.Proofs.Settled

namespace JsonShape

variable {engine : PatternEngine}

/-! ### Types without normalizers -/

/-- Of the loadable types, those without the three standard scalars that normalize are plain; a
refinement of one of these does not normalize. -/
theorem Loadable.plain {type : Descriptor} (loadable : Loadable engine type)
    (without : ∀ part, part.PartOf type →
      part ≠ Standard.nothing ∧ part ≠ Standard.success ∧ part ≠ Standard.error) :
    type.Plain := by
  intro part within
  obtain ⟨notNothing, notSuccess, notError⟩ := without part within
  cases loadable.part within with
  | standard member =>
    simp only [Standard.all, List.mem_cons, List.not_mem_nil, or_false] at member
    rcases member with rfl | rfl | rfl | rfl | rfl | rfl | rfl | rfl | rfl <;>
      first | exact rfl | contradiction
  | refined => rfl
  | record => trivial
  | variant => trivial
  | sum => trivial

/-- None of the three standard scalars that normalize is inside a plain type. -/
theorem Descriptor.Plain.without {type : Descriptor} (plain : type.Plain) :
    ∀ part, part.PartOf type →
      part ≠ Standard.nothing ∧ part ≠ Standard.success ∧ part ≠ Standard.error := by
  intro part within
  have unnormalized := plain part within
  refine ⟨?_, ?_, ?_⟩ <;> rintro rfl <;> cases unnormalized

/-! ### A union and its variants -/

/-- The descriptor, if it is a sum, does not share its identity with a variant. -/
def Descriptor.Apart (type : Descriptor) : Prop :=
  ∀ variant ∈ type.variants, variant.2.identity ≠ type.identity

/-- A union takes its turn behind those of its variants. -/
theorem Descriptor.apart_made (name : String) (payloads : List (String × Descriptor))
    (supply : Supply) :
    Apart (.sum (makeVariants payloads supply).2.draw.1 name (makeVariants payloads supply).1) := by
  intro variant member same
  obtain ⟨turn, bears, _, earlier⟩ :=
    (makeVariants_turns payloads supply _).mp ⟨variant, member, same⟩
  have last : turn = supply.next + payloads.length :=
    (Identity.made.inj bears).symm.trans (makeVariants_next payloads supply)
  exact Nat.ne_of_lt earlier last

theorem Descriptor.Apart.closed : Registry.Closed engine Descriptor.Apart where
  primitives kind := by cases kind <;> exact List.forall_mem_nil _
  refined _ _ _ := List.forall_mem_nil _
  record _ _ _ _ := List.forall_mem_nil _
  union supply _ _ _ _ := Descriptor.apart_made _ _ supply

theorem Grown.holds_apart {registry : Registry} (grown : Grown engine registry) :
    registry.Holds Descriptor.Apart := by
  refine grown.holds Descriptor.Apart.closed (Registry.standard_holds ?_ ?_ ?_)
  · intro type known
    obtain ⟨_, _, _, _, rfl⟩ := Standard.exists_scalar_of_mem_all known
    exact List.forall_mem_nil _
  · show ∀ variant ∈ Maybe.union.variants, variant.2.identity ≠ Maybe.union.identity
    decide
  · show ∀ variant ∈ Result.union.variants, variant.2.identity ≠ Result.union.identity
    decide

/-! ### Dispatch -/

namespace Union

/-- An instance with the identity of the union is dispatched by its value. -/
theorem variantOf?_of_apart {union : Union} (apart : union.asType.Apart) (value : Json) :
    union.variantOf? (.tagged ⟨union.asType, value⟩) = union.variantOf? (.raw value) := by
  have untagged : union.variantOfTag? union.asType.identity = none := by
    rw [variantOfTag?, Option.map_eq_none_iff, List.find?_eq_none]
    intro variant member same
    exact apart variant member (of_decide_eq_true same)
  have dispatched : (Subject.tagged ⟨union.asType, value⟩).tag?.bind union.variantOfTag? = none :=
    untagged
  rw [variantOf?, dispatched]
  rfl

/-- A member of a union is dispatched to the same variant when it has lost the members that the
union does not keep. -/
theorem variantOf?_settle {union : Union} (loadable : Loadable engine union.asType) {value : Json}
    (accepted : union.asType.accepts value = true) :
    union.variantOf? (.raw (union.asType.settle value)) = union.variantOf? (.raw value) := by
  obtain ⟨variant, _, first, _, settles⟩ := Descriptor.settle_sum accepted
  show (Descriptor.firstAccepting? union.variants (union.asType.settle value)).map Prod.fst =
    (Descriptor.firstAccepting? union.variants value).map Prod.fst
  rw [show union.asType.settle value = _ from settles, loadable.firstAccepting_settle first, first]

end Union

/-! ### Stability -/

/-- A text with a union whose first variant asks for everything that the second one does. -/
def shapes : String :=
  "\x7b\"types\":\x7b\"Shape\":\x7b\"union\":\x7b
\"Box\":\x7b\"at\":\x7b\"x\":\"Number\"\x7d,\"w\":\"Number\"\x7d,
\"Dot\":\x7b\"at\":\x7b\"x\":\"Number\"\x7d\x7d\x7d\x7d\x7d\x7d"

/-- An object that is no box, because its width is absent. -/
def flatBox : Json :=
  .object [("w", .null), ("at", .object [("y", .null), ("x", .number (.float (.zero false)))])]

/-- The object is a member of the union, by the second variant, and it loses two members. -/
theorem exists_flatBox_constructed :
    ∃ loaded union made, Registry.standard.loadText Pattern.engine shapes .full = .ok loaded ∧
      loaded.registry.union? "Shape" = some union ∧ union.asType.Plain ∧
      union.is (.raw flatBox) = true ∧ union.variantOf? (.raw flatBox) = some "Dot" ∧
      (union.asType.construct flatBox).outcome = .ok made ∧
      made.value.text = "\x7b\"at\":\x7b\"x\":0.0\x7d\x7d" := by
  have run : (do
      let loaded ← (Registry.standard.loadText Pattern.engine shapes .full).toOption
      let union ← loaded.registry.union? "Shape"
      let made ← (union.asType.construct flatBox).outcome.toOption
      return (decide union.asType.Plain, union.is (.raw flatBox), union.variantOf? (.raw flatBox),
        made.value.text)) =
      some (true, true, some "Dot", "\x7b\"at\":\x7b\"x\":0.0\x7d\x7d") := by
    decide +kernel
  simp only [bind, Option.bind_eq_some_iff, toOption_eq_some_iff, pure, Option.some.injEq,
    Prod.mk.injEq, decide_eq_true_eq] at run
  obtain ⟨loaded, done, union, found, made, built, plain, member, dispatched, text⟩ := run
  exact ⟨loaded, union, made, done, found, plain, member, dispatched, built, text⟩

/-- A type of a registry that was loaded from texts, or one inside such a type, constructs a value
that it has constructed to the same instance again, if nothing inside it is the absence or a payload
of a result, the types that normalize. -/
theorem Grown.construct_idempotent {registry : Registry} (grown : Grown engine registry)
    {name : String} {whole type : Descriptor} (found : registry.type? name = some whole)
    (within : type.PartOf whole)
    (without : ∀ part, part.PartOf type →
      part ≠ Standard.nothing ∧ part ≠ Standard.success ∧ part ≠ Standard.error)
    {raw : Json} {made : Instance} (built : (type.construct raw).outcome = .ok made) :
    (type.construct made.value).outcome = .ok made := by
  have loadable := (grown.holds_loadable.type? found).part within
  have plain := loadable.plain without
  obtain ⟨tag, checked⟩ := Descriptor.construct_eq_ok_iff.mp built
  obtain ⟨accepted, settles⟩ :=
    (Descriptor.check_plain_eq_ok_iff loadable.distinct plain).mp checked
  have settled : type.Settled made.value := settles ▸ loadable.settled_settle accepted
  have checkedAgain : (type.check made.value).outcome = .ok made.value :=
    (Descriptor.check_plain_eq_ok_iff loadable.distinct plain).mpr
      ⟨settled.canonical.accepts, (settled.settle_eq loadable.distinct).symm⟩
  exact Descriptor.construct_eq_ok_iff.mpr ⟨tag, checkedAgain⟩

/-- The box without a width is left with its point, and that is all it keeps being left with. -/
theorem Grown.construct_idempotent_shape :
    ∃ loaded type made, Registry.standard.loadText Pattern.engine shapes .full = .ok loaded ∧
      loaded.registry.type? "Shape" = some type ∧
      (∀ part, part.PartOf type →
        part ≠ Standard.nothing ∧ part ≠ Standard.success ∧ part ≠ Standard.error) ∧
      (type.construct flatBox).outcome = .ok made ∧
      made.value.text = "\x7b\"at\":\x7b\"x\":0.0\x7d\x7d" ∧
      (type.construct made.value).outcome = .ok made := by
  obtain ⟨loaded, union, made, done, found, plain, _, _, built, text⟩ := exists_flatBox_constructed
  have grown : Grown Pattern.engine loaded.registry := .load .standard done
  have named := Registry.type?_of_union? found
  exact ⟨loaded, union.asType, made, done, named, plain.without, built, text,
    grown.construct_idempotent named .self plain.without built⟩

/-- A union of a registry that was loaded from texts constructs every raw value that is a member of
it, and it dispatches the value, the instance and the plain value of the instance to the same
variant. -/
theorem Grown.dispatch_stable {registry : Registry} (grown : Grown engine registry) {name : String}
    {union : Union} (found : registry.union? name = some union) {raw : Json}
    (member : union.is (.raw raw) = true) :
    ∃ made variant, (union.asType.construct raw).outcome = .ok made ∧
      union.variantOf? (.raw raw) = some variant ∧
      union.variantOf? (.tagged made) = some variant ∧
      union.variantOf? (.raw made.value) = some variant := by
  have named := Registry.type?_of_union? found
  have loadable := grown.holds_loadable.type? named
  have accepted : union.asType.accepts raw = true := by
    rwa [Union.is, Descriptor.is_raw] at member
  obtain ⟨variant, _, first, _⟩ := Descriptor.settle_sum accepted
  have dispatched : union.variantOf? (.raw raw) = some variant.1 := by
    show (Descriptor.firstAccepting? union.variants raw).map Prod.fst = some variant.1
    rw [first]
    rfl
  have settled : union.variantOf? (.raw (union.asType.settle raw)) = some variant.1 :=
    (Union.variantOf?_settle loadable accepted).trans dispatched
  refine ⟨_, variant.1, Union.construct_outcome_of_accepts accepted, dispatched, ?_, settled⟩
  rw [Union.variantOf?_of_apart (grown.holds_apart.type? named)]
  exact settled

/-- The box without a width is a dot, and so is what is left of it. -/
theorem Grown.dispatch_stable_shape :
    ∃ loaded union made, Registry.standard.loadText Pattern.engine shapes .full = .ok loaded ∧
      loaded.registry.union? "Shape" = some union ∧ union.is (.raw flatBox) = true ∧
      (union.asType.construct flatBox).outcome = .ok made ∧
      made.value.text = "\x7b\"at\":\x7b\"x\":0.0\x7d\x7d" ∧
      union.variantOf? (.raw flatBox) = some "Dot" ∧
      union.variantOf? (.tagged made) = some "Dot" ∧
      union.variantOf? (.raw made.value) = some "Dot" := by
  obtain ⟨loaded, union, made, done, found, _, member, dot, built, text⟩ :=
    exists_flatBox_constructed
  have grown : Grown Pattern.engine loaded.registry := .load .standard done
  obtain ⟨again, variant, builtAgain, dispatched, tagged, left⟩ :=
    grown.dispatch_stable found member
  obtain rfl : made = again := Except.ok.inj (built.symm.trans builtAgain)
  obtain rfl : "Dot" = variant := Option.some.inj (dot.symm.trans dispatched)
  exact ⟨loaded, union, made, done, found, member, built, text, dot, tagged, left⟩

end JsonShape
