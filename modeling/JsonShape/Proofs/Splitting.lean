/-
This file shows that a definition file can be cut anywhere. To load its declarations in one
go is to load those in front of the cut as one file and those behind it as another
(`Registry.load_append`): the same registry, the same names, or the same error.

That is so if the second load goes on with the identities that the first one has left. Other
types may be made between the two loads, or before them, so that the identities are
different ones. Then the two registries are still alike, because declarations do the same
in registries that are alike, and the errors are still the same (`Registry.load_in_parts`).
The same is said there of the files that a run is given by their paths, where an error also
names the path of the part that it is found in.
-/

import JsonShape.CommandLine.Run
import JsonShape.Pattern.Basic
import JsonShape.Proofs.Accord
import JsonShape.Proofs.Dispatch
import JsonShape.Proofs.Reordering
import JsonShape.Proofs.Repeated

namespace JsonShape

variable {engine : PatternEngine}

/-! ### Unions that are alike -/

namespace Union.Alike

variable {first second : Union}

theorem matching (alike : first.Alike second) (raw : Json) :
    first.matching raw = second.matching raw := by
  obtain ⟨_, _, variants⟩ := first
  obtain ⟨_, _, others⟩ := second
  have each : Descriptor.AlikeEach variants others := alike.variants
  unfold Union.matching
  induction each with
  | nil => rfl
  | @cons name variant other _ _ same _ inductionHypothesis =>
    have rest := inductionHypothesis ⟨alike.name, ‹_›⟩
    simp only [List.filter_cons, same.accepts]
    split
    · exact congrArg (List.cons name) rest
    · exact rest

/-- A raw value is dispatched in the same way, whatever the handlers are. -/
theorem case (alike : first.Alike second) (raw : Json) {Result : Type}
    (handlers : Table (Json → Result)) :
    first.case (.raw raw) handlers = second.case (.raw raw) handlers := by
  have routed : first.variantOf? (.raw raw) = second.variantOf? (.raw raw) := by
    show first.firstAccepting? raw = second.firstAccepting? raw
    rw [firstAccepting?_eq_head?, firstAccepting?_eq_head?, alike.matching]
  rw [Union.case, Union.case, routed, alike.name]

end Union.Alike

/-- Both constructions record the same lines, and they end with the same value or the same
rejection. -/
def Traced.Same (first second : Traced (Except Rejection Instance)) : Prop :=
  first.lines = second.lines ∧
    first.outcome.map Instance.value = second.outcome.map Instance.value

/-- Under every name of a variant the same is constructed; other names are unknown to both. -/
theorem Union.Alike.construct {first second : Union} (alike : first.Alike second) (variant : String)
    (raw : Json) :
    Accord Eq Traced.Same (first.construct variant raw) (second.construct variant raw) := by
  have found := Table.Aligned.rel_find? alike.variants variant
  rw [Union.construct, Union.construct, Union.variant?, Union.variant?, alike.name]
  generalize Table.find? first.variants variant = type, Table.find? second.variants variant = other
    at found ⊢
  cases found with
  | none => exact .error rfl
  | some same => exact .ok (same.construct raw)

/-! ### One file after the other -/

namespace Registry

/-- Loads two files, one after the other. The second load draws from the supply that there is by
then, and the names are those of both files. -/
def loadBoth (engine : PatternEngine) (registry : Registry) (first second : DefinitionFile)
    (supply : Supply) (between : Loaded → Supply) : Except DefinitionError Loaded := do
  let loaded ← registry.load engine first supply
  let last ← loaded.registry.load engine second (between loaded)
  return { last with names := loaded.names ++ last.names }

/-- A file is loaded as its two parts are, one after the other. -/
theorem load_append (registry : Registry) (first second : List (String × Declaration))
    (supply : Supply) :
    registry.load engine ⟨first ++ second⟩ supply =
      registry.loadBoth engine ⟨first⟩ ⟨second⟩ supply Loaded.supply := by
  simp only [load, loadBoth, declareAll_append, Table.keys_append]
  cases registry.declareAll engine first supply with
  | error error => rfl
  | ok made =>
    show (made.1.declareAll engine second made.2 >>= _) =
      (made.1.declareAll engine second made.2 >>= _) >>= _
    cases made.1.declareAll engine second made.2 <;> rfl

/-- The registries are alike, and the same names have been declared. -/
def Loaded.Alike (first second : Loaded) : Prop :=
  first.registry.Alike second.registry ∧ first.names = second.names

theorem Alike.load {first second : Registry} (alike : first.Alike second) (file : DefinitionFile)
    (supply remaining : Supply) :
    Accord Eq Loaded.Alike (first.load engine file supply) (second.load engine file remaining) := by
  refine (alike.declareAll file.types supply remaining).bind ?_
  rintro ⟨extended, supply⟩ ⟨partner, remaining⟩ (same : extended.Alike partner)
  exact .ok ⟨same, rfl⟩

/-- Whatever identities the two loads are given, they do the same. -/
theorem loadBoth_accord (registry : Registry) (first second : DefinitionFile)
    (supply other : Supply) (between since : Loaded → Supply) :
    Accord Eq Loaded.Alike (registry.loadBoth engine first second supply between)
      (registry.loadBoth engine first second other since) := by
  refine ((Alike.refl registry).load first supply other).bind ?_
  rintro loaded partner ⟨alike, names⟩
  refine (alike.load second (between loaded) (since partner)).bind ?_
  rintro last final ⟨alike, further⟩
  exact .ok ⟨alike, by rw [names, further]⟩

end Registry

/-! ### Files that are given by their paths -/

/-- A definition file with these declarations is found at the path. -/
def FileSystem.Defines (files : FileSystem) (path : String)
    (declarations : List (String × Declaration)) : Prop :=
  ∃ text, files.readText path = .ok text ∧ DefinitionFile.read text = .ok ⟨declarations⟩

/-- The same error, but for the path: what is wrong with the whole is reported of one of the two
parts. -/
inductive PartFault (whole first second : String) : RunError → RunError → Prop
  | elsewhere (error : RunError) : PartFault whole first second error error
  | inFirst (error : DefinitionError) :
      PartFault whole first second (.definitionsInvalid whole error)
        (.definitionsInvalid first error)
  | inSecond (error : DefinitionError) :
      PartFault whole first second (.definitionsInvalid whole error)
        (.definitionsInvalid second error)

theorem loadDefinitions_cons {files : FileSystem} {path : String}
    {declarations : List (String × Declaration)} (defines : files.Defines path declarations)
    (paths : List String) (registry : Registry) (supply : Supply) :
    loadDefinitions engine files (path :: paths) registry supply =
      (registry.load engine ⟨declarations⟩ supply).mapError (.definitionsInvalid path) >>=
        fun loaded => loadDefinitions engine files paths loaded.registry loaded.supply := by
  obtain ⟨text, found, read⟩ := defines
  have loads :
      registry.loadText engine text supply = registry.load engine ⟨declarations⟩ supply := by
    rw [Registry.loadText, read]
    rfl
  simp only [loadDefinitions, found, loads]
  cases registry.load engine ⟨declarations⟩ supply <;> rfl

/-- A run that is given a definition file, and one that is given its two parts in its place, end up
with the same registry or stop at the same error. -/
theorem loadDefinitions_split {files : FileSystem} {whole front back : String}
    {first second : List (String × Declaration)} (defines : files.Defines whole (first ++ second))
    (definesFront : files.Defines front first) (definesBack : files.Defines back second)
    (before after : List String) (registry : Registry) (supply : Supply) :
    Accord (PartFault whole front back) Eq
      (loadDefinitions engine files (before ++ whole :: after) registry supply)
      (loadDefinitions engine files (before ++ front :: back :: after) registry supply) := by
  -- What is wrong with an earlier or a later file is wrong with it in both runs.
  have elsewhere : ∀ outcome : Except RunError Registry,
      Accord (PartFault whole front back) Eq outcome outcome := by
    intro outcome
    cases outcome with
    | ok loaded => exact .ok rfl
    | error error => exact .error (.elsewhere error)
  induction before generalizing registry supply with
  | nil =>
    rw [List.nil_append, List.nil_append, loadDefinitions_cons defines,
      loadDefinitions_cons definesFront, Registry.load_append, Registry.loadBoth]
    cases registry.load engine ⟨first⟩ supply with
    | error error => exact .error (.inFirst error)
    | ok loaded =>
      show Accord _ _ _ (loadDefinitions engine files (back :: after) loaded.registry loaded.supply)
      rw [loadDefinitions_cons definesBack]
      show Accord _ _
        ((loaded.registry.load engine ⟨second⟩ loaded.supply >>= _).mapError _ >>= _) _
      cases loaded.registry.load engine ⟨second⟩ loaded.supply with
      | error error => exact .error (.inSecond error)
      | ok last => exact elsewhere _
  | cons path before inductionHypothesis =>
    rw [List.cons_append, List.cons_append, loadDefinitions, loadDefinitions]
    cases files.readText path with
    | error fault => exact elsewhere _
    | ok text =>
      dsimp only
      cases registry.loadText engine text supply with
      | error error => exact elsewhere _
      | ok loaded => exact inductionHypothesis loaded.registry loaded.supply

/-! ### A file and its parts -/

namespace Registry

/-- A definition file is loaded exactly if its two parts are, one after the other, wherever it is
cut, whatever it is loaded into, and whatever identities the loads are given. In both cases the
same names are declared, those of the first part before those of the second, and in both registries
every name stands for a type that has the same members, constructs the same and has the same
schema, or for a union that also routes every raw value to the same variant. If the file is not
loaded, its parts fail with the same error. A run that is given the paths of the parts in the place
of the path of the file ends up with the very same registry, or it stops at the same error. -/
theorem load_in_parts (engine : PatternEngine) (registry : Registry)
    (first second : List (String × Declaration)) (supply other : Supply)
    (between : Loaded → Supply) :
    let whole := registry.load engine ⟨first ++ second⟩ supply
    let parts := registry.loadBoth engine ⟨first⟩ ⟨second⟩ other between
    ((∃ loaded, whole = .ok loaded) ↔ ∃ loaded, parts = .ok loaded) ∧
      (∀ error, whole = .error error → parts = .error error) ∧
      (∀ left right, whole = .ok left → parts = .ok right →
        left.names = Table.keys first ++ Table.keys second ∧ right.names = left.names ∧
        right.registry.names = left.registry.names ∧
        (∀ name type, left.registry.type? name = some type →
          ∃ partner, right.registry.type? name = some partner ∧
            (∀ value, type.is (.raw value) = partner.is (.raw value)) ∧
            (∀ raw, Traced.Same (type.construct raw) (partner.construct raw)) ∧
            type.schema = partner.schema) ∧
        ∀ name union, left.registry.union? name = some union →
          ∃ partner, right.registry.union? name = some partner ∧
            ∀ raw, union.matching raw = partner.matching raw ∧
              (∀ (Result : Type) (handlers : Table (Json → Result)),
                union.case (.raw raw) handlers = partner.case (.raw raw) handlers) ∧
              ∀ variant,
                Accord Eq Traced.Same (union.construct variant raw)
                  (partner.construct variant raw)) ∧
      ∀ (files : FileSystem) (path front back : String) (before after : List String),
        files.Defines path (first ++ second) → files.Defines front first →
        files.Defines back second →
        Accord (PartFault path front back) Eq
          (loadDefinitions engine files (before ++ path :: after) registry supply)
          (loadDefinitions engine files (before ++ front :: back :: after) registry supply) := by
  intro whole parts
  have accord : Accord Eq Loaded.Alike whole parts := by
    have cut : whole = registry.loadBoth engine ⟨first⟩ ⟨second⟩ supply Loaded.supply :=
      registry.load_append first second supply
    exact cut ▸ registry.loadBoth_accord ⟨first⟩ ⟨second⟩ supply other Loaded.supply between
  refine ⟨accord.exists_ok_iff, ?_, ?_, ?_⟩
  · intro error failed
    obtain ⟨_, failedToo, rfl⟩ := accord.exists_error failed
    exact failedToo
  · intro left right loaded loadedToo
    obtain ⟨alike, names⟩ := accord.related loaded loadedToo
    have declared : left.names = Table.keys (first ++ second) := (load_eq_ok_iff.mp loaded).2
    refine ⟨declared.trans (Table.keys_append first second), names.symm, alike.names, ?_, ?_⟩
    · intro name type found
      have partners := alike.type? name
      rw [found] at partners
      generalize right.registry.type? name = partner at partners ⊢
      cases partners with
      | some same => exact ⟨_, rfl, congrFun same.accepts, same.construct, same.schema⟩
    · intro name union found
      have partners := alike.union? name
      rw [found] at partners
      generalize right.registry.union? name = partner at partners ⊢
      cases partners with
      | some same =>
        exact ⟨_, rfl, fun raw => ⟨same.matching raw, fun _ => same.case raw,
          fun variant => same.construct variant raw⟩⟩
  · intro files path front back before after defines definesFront definesBack
    exact loadDefinitions_split defines definesFront definesBack before after registry supply

/-- A text that declares a refinement. -/
def sizesText : String :=
  "\x7b\"types\":\x7b\"Size\":\x7b\"refine\":\x7b\"base\":\"Number\"\x7d\x7d\x7d\x7d"

/-- A text that declares another one, of a base with a wrong name. -/
def tagsText : String :=
  "\x7b\"types\":\x7b\"Tag\":\x7b\"refine\":\x7b\"base\":\"Sizes\"\x7d\x7d\x7d\x7d"

/-- A text that declares both. -/
def bothText : String :=
  "\x7b\"types\":\x7b\"Size\":\x7b\"refine\":\x7b\"base\":\"Number\"\x7d\x7d,
\"Tag\":\x7b\"refine\":\x7b\"base\":\"Sizes\"\x7d\x7d\x7d\x7d"

/-- The texts as files. -/
def tagFiles : FileSystem where
  root := .directory [("both", .file bothText.toUTF8), ("sizes", .file sizesText.toUTF8),
    ("tags", .file tagsText.toUTF8)]
  working := []

theorem tagFiles_define :
    tagFiles.Defines "both" ([("Size", plainRefinement "Number")] ++
        [("Tag", plainRefinement "Sizes")]) ∧
      tagFiles.Defines "sizes" [("Size", plainRefinement "Number")] ∧
      tagFiles.Defines "tags" [("Tag", plainRefinement "Sizes")] := by
  have found : (tagFiles.readText "both").toOption = some bothText ∧
      (tagFiles.readText "sizes").toOption = some sizesText ∧
      (tagFiles.readText "tags").toOption = some tagsText := by decide +kernel
  simp only [toOption_eq_some_iff] at found
  exact ⟨⟨_, found.1, rfl⟩, ⟨_, found.2.1, rfl⟩, ⟨_, found.2.2, rfl⟩⟩

/-- The record of a file with three declarations does the same when the first of them stands in a
file of its own, although it bears another identity then. And of two files that are given in the
place of one, the second is blamed for the wrong name. -/
theorem load_in_parts_card :
    (∃ left right type partner, standard.load Pattern.engine labelledSizes .full = .ok left ∧
      standard.loadBoth Pattern.engine ⟨labelledSizes.types.take 1⟩ ⟨labelledSizes.types.drop 1⟩ ⟨7⟩
        (fun _ => ⟨20⟩) = .ok right ∧
      right.names = ["Size", "Label", "Card"] ∧
      left.registry.type? "Card" = some type ∧ right.registry.type? "Card" = some partner ∧
      type.identity = .made 6 ∧ partner.identity = .made 25 ∧
      partner.is (.raw bigCard) = true ∧
      Traced.Same (type.construct bigCard) (partner.construct bigCard)) ∧
    ∃ error other, loadDefinitions Pattern.engine tagFiles ["both"] standard .full = .error error ∧
      loadDefinitions Pattern.engine tagFiles ["sizes", "tags"] standard .full = .error other ∧
      PartFault "both" "sizes" "tags" error other ∧
      other.message = "failed to load definitions (tags): " ++
        "bad definition for `Tag`: unknown base type `Sizes`" := by
  constructor
  · have run : (do
        let left ← (standard.load Pattern.engine labelledSizes .full).toOption
        let type ← left.registry.type? "Card"
        let right ← (standard.loadBoth Pattern.engine ⟨labelledSizes.types.take 1⟩
          ⟨labelledSizes.types.drop 1⟩ ⟨7⟩ (fun _ => ⟨20⟩)).toOption
        return (type.identity, type.is (.raw bigCard),
          (right.registry.type? "Card").map Descriptor.identity)) =
        some (.made 6, true, some (.made 25)) := by
      decide +kernel
    simp only [bind, Option.bind_eq_some_iff, toOption_eq_some_iff, pure, Option.some.injEq,
      Prod.mk.injEq] at run
    obtain ⟨left, loaded, type, found, right, loadedToo, turn, accepted, turnToo⟩ := run
    obtain ⟨_, _, agree, _⟩ := load_in_parts Pattern.engine standard (labelledSizes.types.take 1)
      (labelledSizes.types.drop 1) .full ⟨7⟩ (fun _ => ⟨20⟩)
    obtain ⟨declared, names, _, types, _⟩ := agree left right loaded loadedToo
    obtain ⟨partner, foundToo, members, constructs, _⟩ := types "Card" type found
    rw [foundToo, Option.map_some, Option.some.injEq] at turnToo
    exact ⟨left, right, type, partner, loaded, loadedToo, names.trans declared, found, foundToo,
      turn, turnToo, members bigCard ▸ accepted, constructs bigCard⟩
  · have stops :
        (loadDefinitions Pattern.engine tagFiles ["both"] standard .full).toOption.isNone = true ∧
        (match loadDefinitions Pattern.engine tagFiles ["sizes", "tags"] standard .full with
          | .error error => error.message
          | .ok _ => "") = "failed to load definitions (tags): " ++
            "bad definition for `Tag`: unknown base type `Sizes`" := by
      decide +kernel
    obtain ⟨_, _, _, runs⟩ := load_in_parts Pattern.engine standard
      [("Size", plainRefinement "Number")] [("Tag", plainRefinement "Sizes")] .full .full
      Loaded.supply
    obtain ⟨both, front, back⟩ := tagFiles_define
    have accord := runs tagFiles "both" "sizes" "tags" [] [] both front back
    rw [List.nil_append, List.nil_append] at accord
    obtain ⟨stops, message⟩ := stops
    generalize loadDefinitions Pattern.engine tagFiles ["both"] standard .full = whole
      at accord stops ⊢
    generalize loadDefinitions Pattern.engine tagFiles ["sizes", "tags"] standard .full = parts
      at accord message ⊢
    cases accord with
    | ok _ => cases stops
    | @error error other fault => exact ⟨error, other, rfl, rfl, fault, message⟩

end Registry

end JsonShape
