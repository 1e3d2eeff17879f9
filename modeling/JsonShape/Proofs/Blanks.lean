/-
This file says where a blank name can stand and where it cannot. No field and no
variant of a loaded type has one, at any depth, and neither has a record or union
itself, because resolving refuses such names (`Descriptor.Obtainable.written`,
`Descriptor.Obtainable.named`). A text that gives one is therefore not loaded
(`Declaration.Admissible.not_givesBlank`).

A refinement is not resolved, and nobody looks at its name: it is the one kind of
declaration that registers a blank name as readily as any other
(`Grown.blank_name_registered`).
-/

import JsonShape.Pattern.Basic
import JsonShape.Proofs.Admission
import JsonShape.Proofs.Obtainable

namespace JsonShape

variable {engine : PatternEngine}

/-! ### Names inside types -/

/-- No field or variant of the descriptor has a blank name. -/
def Descriptor.Written (type : Descriptor) : Prop :=
  ∀ entry ∈ type.named, blank entry.1 = false

namespace Descriptor.Obtainable

/-- No name is blank inside an obtainable type. -/
theorem written {type : Descriptor} (obtainable : type.Obtainable engine) :
    type.Throughout Written := by
  intro part within
  cases obtainable.part within with
  | standard member =>
    have written : ∀ keys ∈ standardPool.map fun type => Table.keys type.named,
        ∀ key ∈ keys, blank key = false := by decide
    exact fun entry named =>
      written _ (List.mem_map_of_mem member) entry.1 (List.mem_map_of_mem named)
  | scalar => exact List.forall_mem_nil _
  | refined => exact List.forall_mem_nil _
  | record _ _ written _ => exact written
  | variant => exact List.forall_mem_nil _
  | @union _ payloads supply _ _ written _ =>
    intro variant member
    obtain ⟨payload, known, _⟩ := (makeVariants_aligned payloads supply).exists_first member
    exact written (_, payload) known

/-- Only scalars can have a blank name. -/
theorem named {type : Descriptor} (obtainable : type.Obtainable engine) :
    blank type.name = false ∨ ∃ identity name predicate normalizer schema,
      type = .scalar identity name predicate normalizer schema := by
  cases obtainable with
  | standard member =>
    have named : ∀ name ∈ standardPool.map Descriptor.name, blank name = false := by decide
    exact Or.inl (named _ (List.mem_map_of_mem member))
  | scalar => exact Or.inr ⟨_, _, _, _, _, rfl⟩
  | refined => exact Or.inr ⟨_, _, _, _, _, rfl⟩
  | record named => exact Or.inl named
  | variant named => exact Or.inl named
  | union _ named => exact Or.inl named

end Descriptor.Obtainable

/-! ### Names in declarations -/

/-- A blank name stands in the value where a field or variant is named. -/
inductive Json.GivesBlank : Json → Prop
  | here {members : List (String × Json)} {member : String × Json} (entry : member ∈ members)
      (unnamed : blank member.1 = true) : GivesBlank (.object members)
  | inside {members : List (String × Json)} {member : String × Json} (entry : member ∈ members)
      (deeper : GivesBlank member.2) : GivesBlank (.object members)

/-- The declaration names a record or union blank, or a field or variant in it. -/
def Declaration.GivesBlank (name : String) : Declaration → Prop
  | .data spec => blank name = true ∨ spec.GivesBlank
  | .union spec => blank name = true ∨ spec.GivesBlank
  | .refine _ => False

theorem Json.DeclaresField.not_givesBlank {scope : List String} {spec : Json}
    (declares : spec.DeclaresField scope) : ¬ spec.GivesBlank := by
  intro gives
  induction gives with
  | here entry unnamed =>
    have named := (declaresField_object_iff.mp declares _ entry).1
    rw [named] at unnamed
    cases unnamed
  | inside entry _ inductionHypothesis =>
    exact inductionHypothesis (declaresField_object_iff.mp declares _ entry).2

theorem Declaration.Admissible.not_givesBlank {scope : List String} {name : String}
    {declaration : Declaration} (admissible : declaration.Admissible engine scope name) :
    ¬ declaration.GivesBlank name := by
  cases admissible with
  | data named fields =>
    rintro (unnamed | gives)
    · exact absurd unnamed (named ▸ Bool.false_ne_true)
    · exact fields.not_givesBlank gives
  | union named _ payloads =>
    rintro (unnamed | gives)
    · exact absurd unnamed (named ▸ Bool.false_ne_true)
    · exact payloads.not_givesBlank gives
  | refine => exact id

/-! ### Names in registries -/

theorem Grown.wellNamed {registry : Registry} (grown : Grown engine registry) :
    registry.WellNamed := by
  induction grown with
  | standard => exact Registry.wellNamed_standard
  | load _ done inductionHypothesis => exact inductionHypothesis.loadText done

/-- A loadable type with a blank name is a refinement. -/
theorem Loadable.exists_refinement {type : Descriptor} (loadable : Loadable engine type)
    (obtainable : type.Obtainable engine) (unnamed : blank type.name = true) :
    ∃ identity base pattern refinement, type = .scalar identity type.name
      (Registry.refinedPredicate base pattern refinement.minimum refinement.maximum) none
      (some (Registry.refinedSchema type.name base refinement)) := by
  rcases obtainable.named with named | ⟨identity, name, predicate, normalizer, schema, rfl⟩
  · rw [named] at unnamed
    cases unnamed
  · cases loadable with
    | standard member =>
      have named : ∀ name ∈ Standard.all.map Descriptor.name, blank name = false := by decide
      rw [named _ (List.mem_map_of_mem member)] at unnamed
      cases unnamed
    | @refined _ _ base pattern refinement => exact ⟨identity, base, pattern, refinement, rfl⟩

/-- A file that gives a blank name is refused, and so is a text that is read as that file. -/
theorem exists_error_of_givesBlank (registry : Registry) {file : DefinitionFile} (supply : Supply)
    {declared : String × Declaration} (member : declared ∈ file.types)
    (gives : declared.2.GivesBlank declared.1) :
    ∃ error, registry.load engine file supply = .error error ∧
      ∀ text, DefinitionFile.read text = .ok file →
        registry.loadText engine text supply = .error error := by
  cases outcome : registry.load engine file supply with
  | error error =>
    refine ⟨error, rfl, fun text read => ?_⟩
    rw [Registry.loadText, bind_eq_error_iff]
    exact Or.inr ⟨file, read, outcome⟩
  | ok loaded =>
    obtain ⟨earlier, later, split⟩ := List.append_of_mem member
    have admissible := Registry.exists_load_iff.mp ⟨loaded, outcome⟩
    exact absurd gives (admissible earlier _ _ later split).2.not_givesBlank

/-- In a registry that was loaded from texts, no field and no variant has a blank name, at any depth
of any type, and what is registered under a blank name is a refinement. A file that names a record,
a union, a field or a variant blank, at any depth, is refused as a definition, also when it is read
from a text. -/
theorem Grown.names_written {registry : Registry} (grown : Grown engine registry) :
    (∀ entry ∈ registry.entries, entry.2.asType.Throughout fun part =>
        ∀ inner ∈ part.named, blank inner.1 = false) ∧
      (∀ entry ∈ registry.entries, blank entry.1 = true →
        ∃ identity base pattern refinement, entry.2.asType = .scalar identity entry.1
          (Registry.refinedPredicate base pattern refinement.minimum refinement.maximum) none
          (some (Registry.refinedSchema entry.1 base refinement))) ∧
      ∀ (file : DefinitionFile) (supply : Supply),
        (∃ declared ∈ file.types, declared.2.GivesBlank declared.1) →
          ∃ error, registry.load engine file supply = .error error ∧
            ∀ text, DefinitionFile.read text = .ok file →
              registry.loadText engine text supply = .error error := by
  refine ⟨fun entry member => (grown.holds_obtainable entry member).written, ?_, ?_⟩
  · intro entry member unnamed
    rw [← grown.wellNamed.named entry member] at unnamed ⊢
    exact (grown.holds_loadable entry member).exists_refinement
      (grown.holds_obtainable entry member) unnamed
  · rintro file supply ⟨declared, member, gives⟩
    exact exists_error_of_givesBlank registry supply member gives

/-- A text that declares a refinement under a blank name. -/
def blankLabel : String :=
  "\x7b\"types\":\x7b\" \":\x7b\"refine\":\x7b\"base\":\"String\"\x7d\x7d\x7d\x7d"

/-- A file that declares a record with a blank field inside a field. -/
def blankCorner : DefinitionFile where
  types := [("Box", .data (.object [("at", .object [("", .string "Number")])]))]

theorem exists_blankLabel_loaded :
    ∃ loaded, Registry.standard.loadText Pattern.engine blankLabel .full = .ok loaded ∧
      " " ∈ loaded.registry.names := by
  have run : (do
      let loaded ← (Registry.standard.loadText Pattern.engine blankLabel .full).toOption
      return decide (" " ∈ loaded.registry.names)) = some true := by
    decide +kernel
  simpa only [bind, Option.bind_eq_some_iff, toOption_eq_some_iff, pure, Option.some.injEq,
    decide_eq_true_eq] using run

/-- The type with the blank name is a refinement without fields, and a record with a blank field is
refused beside it. -/
theorem Grown.names_written_label :
    ∃ loaded, Registry.standard.loadText Pattern.engine blankLabel .full = .ok loaded ∧
      (∃ type, loaded.registry.type? " " = some type ∧ type.Throughout Descriptor.Written ∧
        ∃ identity predicate schema, type = .scalar identity " " predicate none schema) ∧
      (∃ declared ∈ blankCorner.types, declared.2.GivesBlank declared.1) ∧
      ∃ error, loaded.registry.load Pattern.engine blankCorner loaded.supply = .error error := by
  obtain ⟨loaded, done, member⟩ := exists_blankLabel_loaded
  obtain ⟨entry, found⟩ := Table.exists_find?_of_mem_keys member
  obtain ⟨inside, unnamed, refused⟩ := Grown.names_written (.load .standard done)
  have registered := Table.mem_of_find? found
  obtain ⟨identity, _, _, _, refined⟩ := unnamed _ registered (show blank " " = true by decide)
  have gives : ∃ declared ∈ blankCorner.types, declared.2.GivesBlank declared.1 :=
    ⟨_, List.mem_cons_self, Or.inr (.inside List.mem_cons_self (.here List.mem_cons_self rfl))⟩
  obtain ⟨error, failed, _⟩ := refused blankCorner loaded.supply gives
  exact ⟨loaded, done,
    ⟨entry.asType, Option.map_eq_some_iff.mpr ⟨entry, found, rfl⟩, inside _ registered,
      identity, _, _, refined⟩,
    gives, error, failed⟩

/-- A registry that was loaded from texts can hold a blank name, that of a refinement. -/
theorem Grown.blank_name_registered :
    ∃ loaded, Registry.standard.loadText Pattern.engine blankLabel .full = .ok loaded ∧
      Grown Pattern.engine loaded.registry ∧ ∃ name ∈ loaded.registry.names, blank name = true := by
  obtain ⟨loaded, done, member⟩ := exists_blankLabel_loaded
  exact ⟨loaded, done, .load .standard done, " ", member, by decide⟩

end JsonShape
