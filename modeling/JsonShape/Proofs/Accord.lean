/-
This file shows that a declaration does the same in registries that are alike. Two
registries are alike if they hold the same names in the same order, and under each of
them entries that do the same (`Registry.Alike`). The identities in them may differ,
because every run draws them from whatever supply it is given.

Each routine on the way of a declaration is compared with itself: the two runs accord if
both succeed, with results that are alike, or both fail, with the same error (`Accord`).
Steps in a row accord if every single one does (`Accord.bind`), so each proof follows the
routine that it is about, from one declared field (`Registry.Alike.fieldSpec`,
`FieldSpec.Alike.resolve`) to a whole row of declarations (`Registry.Alike.declareAll`).
-/

import JsonShape.Proofs.Denotation

namespace JsonShape

/-! ### Outcomes that accord -/

/-- Both succeed, with results that are related, or both fail, with errors that are related. -/
inductive Accord {Failure Other First Second : Type} (Failures : Failure → Other → Prop)
    (Results : First → Second → Prop) : Except Failure First → Except Other Second → Prop
  | ok {first : First} {second : Second} (related : Results first second) :
      Accord Failures Results (.ok first) (.ok second)
  | error {failure : Failure} {other : Other} (related : Failures failure other) :
      Accord Failures Results (.error failure) (.error other)

namespace Accord

variable {Failure Other First Second : Type} {Failures : Failure → Other → Prop}
  {Results : First → Second → Prop} {first : Except Failure First} {second : Except Other Second}

/-- Steps accord if their first parts do, and their second parts on results that are related. -/
theorem bind {Left Right : Type} {Further : Left → Right → Prop}
    {next : First → Except Failure Left} {other : Second → Except Other Right}
    (accord : Accord Failures Results first second)
    (each : ∀ result partner, Results result partner →
      Accord Failures Further (next result) (other partner)) :
    Accord Failures Further (first >>= next) (second >>= other) := by
  cases accord with
  | ok related => exact each _ _ related
  | error related => exact .error related

/-- One outcome is a success exactly if the other one is. -/
theorem exists_ok_iff (accord : Accord Failures Results first second) :
    (∃ result, first = .ok result) ↔ ∃ partner, second = .ok partner := by
  cases accord with
  | ok _ => exact iff_of_true ⟨_, rfl⟩ ⟨_, rfl⟩
  | error _ => exact iff_of_false nofun nofun

/-- Two successes have related results. -/
theorem related (accord : Accord Failures Results first second) {result : First} {partner : Second}
    (succeeds : first = .ok result) (succeedsToo : second = .ok partner) :
    Results result partner := by
  subst succeeds succeedsToo
  cases accord with
  | ok related => exact related

/-- A failure comes with a related one. -/
theorem exists_error (accord : Accord Failures Results first second) {failure : Failure}
    (failed : first = .error failure) :
    ∃ other, second = .error other ∧ Failures failure other := by
  subst failed
  cases accord with
  | error related => exact ⟨_, rfl, related⟩

theorem eq_error_iff {second : Except Failure Second} (accord : Accord Eq Results first second)
    {failure : Failure} : first = .error failure ↔ second = .error failure := by
  cases accord with
  | ok _ => exact iff_of_false nofun nofun
  | error same => rw [same, Except.error.injEq, Except.error.injEq]

end Accord

/-! ### Entries and registries that are alike -/

theorem Descriptor.Alike.refl (type : Descriptor) : type.Alike type := ⟨rfl, rfl, rfl, rfl, rfl⟩

/-- The unions bear the same name and have the same variants, which do the same. -/
structure Union.Alike (first second : Union) : Prop where
  name : first.name = second.name
  variants : Descriptor.AlikeEach first.variants second.variants

/-- The entries are both types or both unions, and they do the same. -/
inductive Entry.Alike : Entry → Entry → Prop
  | type {first second : Descriptor} (alike : first.Alike second) :
      Alike (.type first) (.type second)
  | union {first second : Union} (alike : first.Alike second) :
      Alike (.union first) (.union second)

namespace Entry.Alike

theorem refl (entry : Entry) : entry.Alike entry := by
  cases entry with
  | type content => exact .type (.refl content)
  | union content => exact .union ⟨rfl, .refl Descriptor.Alike.refl content.variants⟩

theorem asType {first second : Entry} (alike : first.Alike second) :
    first.asType.Alike second.asType := by
  cases alike with
  | type alike => exact alike
  | @union first second alike =>
    obtain ⟨identity, name, variants⟩ := first
    obtain ⟨other, _, others⟩ := second
    obtain ⟨rfl, each⟩ := alike
    exact .sum each

end Entry.Alike

namespace Registry

/-- The registries hold the same names in the same order, and under each of them entries that do the
same. -/
def Alike (first second : Registry) : Prop :=
  Table.Aligned (fun _ => Entry.Alike) first.entries second.entries

namespace Alike

variable {first second : Registry}

theorem refl (registry : Registry) : registry.Alike registry :=
  Table.Aligned.refl Entry.Alike.refl registry.entries

theorem names (alike : first.Alike second) : second.names = first.names := Table.Aligned.keys alike

theorem find? (alike : first.Alike second) (name : String) :
    Option.Rel Entry.Alike (first.find? name) (second.find? name) :=
  Table.Aligned.rel_find? alike name

theorem type? (alike : first.Alike second) (name : String) :
    Option.Rel Descriptor.Alike (first.type? name) (second.type? name) := by
  have found := alike.find? name
  unfold Registry.type?
  generalize first.find? name = entry, second.find? name = partner at found ⊢
  cases found with
  | none => exact .none
  | some alike => exact .some alike.asType

theorem union? (alike : first.Alike second) (name : String) :
    Option.Rel Union.Alike (first.union? name) (second.union? name) := by
  have found := alike.find? name
  unfold Registry.union?
  generalize first.find? name = entry, second.find? name = partner at found ⊢
  cases found with
  | none => exact .none
  | some alike =>
    cases alike with
    | type _ => exact .none
    | union alike => exact .some alike

/-- A name is new in both registries or in neither, and entries that are alike can be registered. -/
theorem insert (alike : first.Alike second) (name : String) {entry other : Entry}
    (new : entry.Alike other) :
    Accord Eq Registry.Alike (first.insert name entry) (second.insert name other) := by
  have has : Table.has second.entries name = Table.has first.entries name := by
    have found := Table.Aligned.rel_find? alike name
    rw [Table.has, Table.has]
    generalize Table.find? first.entries name = here, Table.find? second.entries name = there
      at found ⊢
    cases found <;> rfl
  rw [Registry.insert, Registry.insert, has]
  split
  · exact .error rfl
  · exact .ok (Table.Aligned.append alike (.cons new .nil))

theorem insertType (alike : first.Alike second) {type other : Descriptor} (new : type.Alike other) :
    Accord Eq Registry.Alike (first.insertType type) (second.insertType other) := by
  rw [Registry.insertType, Registry.insertType, ← new.name]
  exact alike.insert type.name (.type new)

theorem insertUnion (alike : first.Alike second) {union other : Union} (new : union.Alike other) :
    Accord Eq Registry.Alike (first.insertUnion union) (second.insertUnion other) := by
  rw [Registry.insertUnion, Registry.insertUnion, ← new.name]
  exact alike.insert union.name (.union new)

end Alike

end Registry

/-! ### Declared fields -/

/-- The fields are declared in the same way, by types that do the same. -/
inductive FieldSpec.Alike : FieldSpec → FieldSpec → Prop
  | type {first second : Descriptor} (alike : first.Alike second) :
      Alike (.type first) (.type second)
  | primitive (kind : Primitive) : Alike (.primitive kind) (.primitive kind)
  | record {firsts seconds : List (String × FieldSpec)}
      (each : Table.Aligned (fun _ first second => Alike first second) firsts seconds) :
      Alike (.record firsts) (.record seconds)

/-- The tables declare the same fields in the same way. -/
abbrev FieldSpec.AlikeEach : List (String × FieldSpec) → List (String × FieldSpec) → Prop :=
  Table.Aligned fun _ => FieldSpec.Alike

section Reading

variable {first second : Registry}

theorem Registry.fieldSpecsOf_alike {members : List (String × Json)}
    (each : ∀ member ∈ members, ∀ owner, Accord Eq FieldSpec.Alike
      (first.fieldSpec owner member.2) (second.fieldSpec owner member.2)) (owner : String) :
    Accord Eq FieldSpec.AlikeEach (first.fieldSpecsOf owner members)
      (second.fieldSpecsOf owner members) := by
  induction members with
  | nil => exact .ok .nil
  | cons member rest inductionHypothesis =>
    obtain ⟨here, others⟩ := List.forall_mem_cons.mp each
    rw [fieldSpecsOf, fieldSpecsOf]
    refine (here _).bind fun spec other alike => ?_
    refine (inductionHypothesis others).bind fun specs partners alikeEach => ?_
    exact .ok (.cons alike alikeEach)

/-- A field that is read in registries that are alike is declared in the same way. -/
theorem Registry.Alike.fieldSpec (alike : first.Alike second) (json : Json) (owner : String) :
    Accord Eq FieldSpec.Alike (first.fieldSpec owner json) (second.fieldSpec owner json) := by
  induction json generalizing owner with
  | string name =>
    have found := alike.type? name
    rw [Registry.fieldSpec, Registry.fieldSpec]
    generalize first.type? name = type, second.type? name = other at found ⊢
    cases found with
    | none => exact .error rfl
    | some alike => exact .ok (.type alike)
  | object members inductionHypothesis =>
    rw [Registry.fieldSpec, Registry.fieldSpec]
    refine (fieldSpecsOf_alike inductionHypothesis owner).bind fun specs others each => ?_
    exact .ok (.record each)
  | null | bool | number | array => exact .error rfl

theorem Registry.Alike.fieldSpecs (alike : first.Alike second) (json : Json) (owner : String) :
    Accord Eq FieldSpec.AlikeEach (first.fieldSpecs owner json) (second.fieldSpecs owner json) := by
  cases json with
  | object members =>
    exact Registry.fieldSpecsOf_alike (fun member _ => alike.fieldSpec member.2) owner
  | null | bool | number | string | array => exact .error rfl

end Reading

/-! ### Resolving -/

/-- The fields are resolved to types that are alike under any name, whatever identities these are
given. -/
def FieldSpec.ResolvesAlike (first second : FieldSpec) : Prop :=
  ∀ name supply remaining, Accord Eq (fun made partner => made.1.Alike partner.1)
    (first.resolve name supply) (second.resolve name remaining)

/-- Fields are resolved alike if each of them is. -/
theorem resolveEach_alike {fields others : List (String × FieldSpec)}
    (each : Table.Aligned (fun _ => FieldSpec.ResolvesAlike) fields others)
    (owner : String) (supply remaining : Supply) :
    Accord Eq (fun made partner => Descriptor.AlikeEach made.1 partner.1)
      (resolveEach owner fields supply) (resolveEach owner others remaining) := by
  induction each generalizing supply remaining with
  | nil => exact .ok .nil
  | @cons key field other _ _ here _ inductionHypothesis =>
    rw [resolveEach, resolveEach]
    split
    · exact .error rfl
    · refine (here _ supply remaining).bind ?_
      rintro ⟨type, supply⟩ ⟨partner, remaining⟩ alike
      refine (inductionHypothesis supply remaining).bind ?_
      rintro ⟨types, supply⟩ ⟨partners, remaining⟩ alikeEach
      exact .ok (.cons alike alikeEach)

/-- Fields that are declared in the same way are resolved alike. -/
theorem FieldSpec.Alike.resolve {field other : FieldSpec} (alike : field.Alike other) :
    field.ResolvesAlike other := by
  induction field generalizing other with
  | type known =>
    cases alike with
    | type alike => exact fun _ _ _ => .ok alike
  | primitive kind =>
    cases alike with
    | primitive => exact fun _ _ _ => .ok (.refl _)
  | record fields inductionHypothesis =>
    cases alike with
    | @record _ others each =>
      have resolves : Table.Aligned (fun _ => FieldSpec.ResolvesAlike) fields others :=
        each.imp fun field member _ alike => inductionHypothesis field member alike
      intro name supply remaining
      rw [FieldSpec.resolve, FieldSpec.resolve]
      split
      · exact .error rfl
      · refine (resolveEach_alike resolves name supply remaining).bind ?_
        rintro ⟨types, supply⟩ ⟨partners, remaining⟩ alikeEach
        exact .ok (.record alikeEach)

theorem makeVariants_alike {payloads others : List (String × Descriptor)}
    (each : Descriptor.AlikeEach payloads others) (supply remaining : Supply) :
    Descriptor.AlikeEach (makeVariants payloads supply).1 (makeVariants others remaining).1 := by
  induction each generalizing supply remaining with
  | nil => exact .nil
  | cons alike _ inductionHypothesis => exact .cons alike.variant (inductionHypothesis _ _)

theorem makeUnion_alike {payloads others : FieldSpecs} (each : FieldSpec.AlikeEach payloads others)
    (name : String) (supply remaining : Supply) :
    Accord Eq (fun made partner => made.1.Alike partner.1) (makeUnion name payloads supply)
      (makeUnion name others remaining) := by
  have resolves := resolveEach_alike (each.imp fun _ _ _ alike => alike.resolve) name supply
    remaining
  have empty : others.isEmpty = payloads.isEmpty := by cases each <;> rfl
  rw [makeUnion, makeUnion, empty, resolveFields, resolveFields]
  split
  · exact .error rfl
  · split
    · exact .error rfl
    · refine resolves.bind ?_
      rintro ⟨types, supply⟩ ⟨partners, remaining⟩ alikeEach
      exact .ok ⟨rfl, makeVariants_alike alikeEach supply remaining⟩

/-! ### Declarations -/

namespace Registry

variable {engine : PatternEngine} {first second : Registry}

/-- Refinements of bases that are alike are alike. -/
theorem Alike.refine (alike : first.Alike second) (name : String) (refinement : Refinement)
    (supply remaining : Supply) :
    Accord Eq (fun made partner => made.1.Alike partner.1)
      (first.refine engine name refinement supply)
      (second.refine engine name refinement remaining) := by
  have found := alike.type? refinement.base
  rw [Registry.refine, Registry.refine]
  generalize first.type? refinement.base = base, second.type? refinement.base = other at found ⊢
  cases found with
  | none => exact .error rfl
  | some alike =>
    cases compilePattern engine name refinement with
    | error error => exact .error rfl
    | ok pattern =>
      cases crossed? refinement with
      | some bounds => exact .error rfl
      | none =>
        dsimp only [bind, Except.bind]
        rw [refinedPredicate_congr alike, refinedSchema_congr alike]
        exact .ok .scalar

/-- A declaration is made in both of two registries that are alike, and they are alike again, or it
fails with the same error in both. -/
theorem Alike.declare (alike : first.Alike second) (name : String) (declaration : Declaration)
    (supply remaining : Supply) :
    Accord Eq (fun made partner => made.1.Alike partner.1)
      (first.declare engine name declaration supply)
      (second.declare engine name declaration remaining) := by
  cases declaration with
  | data spec =>
    refine (alike.fieldSpecs spec name).bind fun fields others each => ?_
    refine ((FieldSpec.Alike.record each).resolve name supply remaining).bind ?_
    rintro ⟨type, supply⟩ ⟨partner, remaining⟩ (same : type.Alike partner)
    exact (alike.insertType same).bind fun _ _ alike => .ok alike
  | union spec =>
    refine (alike.fieldSpecs spec name).bind fun payloads others each => ?_
    refine (makeUnion_alike each name supply remaining).bind ?_
    rintro ⟨union, supply⟩ ⟨partner, remaining⟩ (same : union.Alike partner)
    exact (alike.insertUnion same).bind fun _ _ alike => .ok alike
  | refine refinement =>
    refine (alike.refine name refinement supply remaining).bind ?_
    rintro ⟨type, supply⟩ ⟨partner, remaining⟩ (same : type.Alike partner)
    exact (alike.insertType same).bind fun _ _ alike => .ok alike

/-- Declarations in a row do the same in registries that are alike. -/
theorem Alike.declareAll (alike : first.Alike second) (declarations : List (String × Declaration))
    (supply remaining : Supply) :
    Accord Eq (fun made partner => made.1.Alike partner.1)
      (first.declareAll engine declarations supply)
      (second.declareAll engine declarations remaining) := by
  induction declarations generalizing first second supply remaining with
  | nil => exact .ok alike
  | cons declaration rest inductionHypothesis =>
    rw [Registry.declareAll, Registry.declareAll]
    refine (alike.declare declaration.1 declaration.2 supply remaining).bind ?_
    rintro ⟨middle, supply⟩ ⟨partner, remaining⟩ (same : middle.Alike partner)
    exact inductionHypothesis same supply remaining

end Registry

end JsonShape
