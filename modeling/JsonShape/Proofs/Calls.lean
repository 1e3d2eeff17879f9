/-
This file follows a registry through the calls that its holder makes: registering a
type, registering a union, and loading a definition text, in any order and with any
outcome. What is registered once stays for good, in its place and under its name. A
call adds its entries behind all others (`Call.answer_adds`), and a call that fails
adds nothing, however far it had come.

The invariant of a whole run is that every name is the name of what it stands for and
that no name occurs twice (`WellNamed`). A name is checked to be new when its entry is
added, and a declaration is registered under the name that it gives to its type, so
each added entry keeps it.
-/

import JsonShape.Pattern.Basic
import JsonShape.Proofs.Declaring
import Mathlib.Data.List.Nodup

namespace JsonShape

namespace Registry

variable {engine : PatternEngine}

/-! ### Well-named registries -/

/-- Every name is that of the type it stands for, and no name occurs twice. -/
structure WellNamed (registry : Registry) : Prop where
  named : ∀ entry ∈ registry.entries, entry.2.asType.name = entry.1
  distinct : registry.names.Nodup

theorem wellNamed_empty : empty.WellNamed := ⟨List.forall_mem_nil _, List.nodup_nil⟩

theorem wellNamed_standard : standard.WellNamed where
  named := by
    intro entry member
    rcases List.mem_append.mp member with scalar | union
    · obtain ⟨type, _, rfl⟩ := List.mem_map.mp scalar
      rfl
    · obtain ⟨union, _, rfl⟩ := List.mem_map.mp union
      rfl
  distinct := by decide

theorem has_eq_false_iff {registry : Registry} {name : String} :
    Table.has registry.entries name = false ↔ name ∉ registry.names := by
  rw [Table.has, names, ← Table.find?_eq_none_iff, Option.isSome_eq_false_iff,
    Option.isNone_iff_eq_none]

/-- A new name can be given to an entry that bears it. -/
theorem WellNamed.append {registry : Registry} (wellNamed : registry.WellNamed) {name : String}
    {entry : Entry} (named : entry.asType.name = name)
    (new : Table.has registry.entries name = false) :
    (Registry.mk (registry.entries ++ [(name, entry)])).WellNamed where
  named := List.forall_mem_append.mpr ⟨wellNamed.named, List.forall_mem_singleton.mpr named⟩
  distinct := by
    have absent := has_eq_false_iff.mp new
    rw [names, Table.keys_append, List.nodup_append]
    refine ⟨wellNamed.distinct, List.nodup_singleton _, fun other old last added => ?_⟩
    obtain rfl := List.mem_singleton.mp added
    exact fun same => absent (same ▸ old)

theorem WellNamed.insert {registry extended : Registry} (wellNamed : registry.WellNamed)
    {name : String} {entry : Entry} (named : entry.asType.name = name)
    (done : registry.insert name entry = .ok extended) : extended.WellNamed := by
  obtain ⟨new, rfl⟩ := insert_eq_ok_iff.mp done
  exact wellNamed.append named new

theorem WellNamed.loadText {registry : Registry} (wellNamed : registry.WellNamed) {text : String}
    {supply : Supply} {loaded : Loaded} (done : registry.loadText engine text supply = .ok loaded) :
    loaded.registry.WellNamed := by
  refine loadText_invariant (fun registry _ => registry.WellNamed) ?_ wellNamed done
  intro name declaration registry supply extended rest _ wellNamed declared
  obtain ⟨entry, made, new, rfl⟩ := declare_eq_ok_iff.mp declared
  exact wellNamed.append made.name new

/-! ### What a load adds -/

/-- Declarations add one entry each, in their order and behind all others. -/
theorem declareAll_adds {registry extended : Registry} {declarations : List (String × Declaration)}
    {supply rest : Supply}
    (done : registry.declareAll engine declarations supply = .ok (extended, rest)) :
    ∃ added, extended.entries = registry.entries ++ added ∧
      Table.keys added = Table.keys declarations := by
  induction declarations generalizing registry supply with
  | nil =>
    simp only [declareAll, Except.ok.injEq, Prod.mk.injEq] at done
    exact ⟨[], done.1 ▸ (List.append_nil _).symm, rfl⟩
  | cons declaration remaining inductionHypothesis =>
    obtain ⟨middle, left, declared, done⟩ := declareAll_cons_eq_ok_iff.mp done
    obtain ⟨entry, _, _, rfl⟩ := declare_eq_ok_iff.mp declared
    obtain ⟨added, behind, keys⟩ := inductionHypothesis done
    refine ⟨(declaration.1, entry) :: added, ?_, congrArg (List.cons declaration.1) keys⟩
    rw [behind, List.append_assoc, List.singleton_append]

/-- A load adds exactly the names that it reports, in that order. -/
theorem loadText_adds {registry : Registry} {text : String} {supply : Supply} {loaded : Loaded}
    (done : registry.loadText engine text supply = .ok loaded) :
    ∃ added, loaded.registry.entries = registry.entries ++ added ∧
      Table.keys added = loaded.names := by
  obtain ⟨_, _, declared, names⟩ := loadText_eq_ok_iff.mp done
  rw [names]
  exact declareAll_adds declared

/-! ### Calls -/

/-- What the holder of a registry can ask of it that may change it. A load is given the identities
that are still to be given out, because other descriptors may have been made since the last one. -/
inductive Call where
  | insertType (type : Descriptor)
  | insertUnion (union : Union)
  | load (text : String) (supply : Supply)

namespace Call

/-- The registry that a call ends with and the names that it has registered. -/
def answer (engine : PatternEngine) (registry : Registry) :
    Call → Except DefinitionError (Registry × List String)
  | insertType type => do return (← registry.insertType type, [type.name])
  | insertUnion union => do return (← registry.insertUnion union, [union.name])
  | load text supply => do
      let loaded ← registry.loadText engine text supply
      return (loaded.registry, loaded.names)

/-- What the holder is left with: the registry that the call ends with, and the one from before if
the call fails. -/
def after (engine : PatternEngine) (registry : Registry) (call : Call) : Registry :=
  match call.answer engine registry with
  | .ok (extended, _) => extended
  | .error _ => registry

theorem after_of_ok {registry extended : Registry} {call : Call} {names : List String}
    (done : call.answer engine registry = .ok (extended, names)) :
    call.after engine registry = extended := by
  rw [after, done]

theorem after_of_error {registry : Registry} {call : Call} {error : DefinitionError}
    (failed : call.answer engine registry = .error error) :
    call.after engine registry = registry := by
  rw [after, failed]

/-- A call that succeeds adds an entry for each name that it registers, behind all others; a type
or union that is registered by itself is the only entry added. -/
theorem answer_adds {registry extended : Registry} {call : Call} {names : List String}
    (done : call.answer engine registry = .ok (extended, names)) :
    ∃ added, extended.entries = registry.entries ++ added ∧ Table.keys added = names ∧
      (∀ type, call = .insertType type → added = [(type.name, .type type)]) ∧
      ∀ union, call = .insertUnion union → added = [(union.name, .union union)] := by
  cases call with
  | insertType type =>
    simp only [answer, bind_eq_ok_iff, pure_eq_ok_iff, Prod.mk.injEq] at done
    obtain ⟨_, inserted, rfl, rfl⟩ := done
    obtain ⟨_, rfl⟩ := insert_eq_ok_iff.mp inserted
    exact ⟨[(type.name, .type type)], rfl, rfl, fun _ same => by cases same; rfl, nofun⟩
  | insertUnion union =>
    simp only [answer, bind_eq_ok_iff, pure_eq_ok_iff, Prod.mk.injEq] at done
    obtain ⟨_, inserted, rfl, rfl⟩ := done
    obtain ⟨_, rfl⟩ := insert_eq_ok_iff.mp inserted
    exact ⟨[(union.name, .union union)], rfl, rfl, nofun, fun _ same => by cases same; rfl⟩
  | load text supply =>
    simp only [answer, bind_eq_ok_iff, pure_eq_ok_iff, Prod.mk.injEq] at done
    obtain ⟨_, loaded, rfl, rfl⟩ := done
    obtain ⟨added, behind, keys⟩ := loadText_adds loaded
    exact ⟨added, behind, keys, nofun, nofun⟩

/-- A load fails with the error of the first declaration that cannot be made, however many before
it could. -/
theorem answer_load_of_declare {registry middle : Registry} {text : String} {supply left : Supply}
    {file : DefinitionFile} {fine later : List (String × Declaration)} {name : String}
    {declaration : Declaration} {error : DefinitionError}
    (read : DefinitionFile.read text = .ok file)
    (split : file.types = fine ++ (name, declaration) :: later)
    (before : registry.declareAll engine fine supply = .ok (middle, left))
    (failed : middle.declare engine name declaration left = .error error) :
    (Call.load text supply).answer engine registry = .error error := by
  have stops : registry.declareAll engine file.types supply = .error error :=
    declareAll_eq_error_iff.mpr
      ⟨fine, name, declaration, later, middle, left, split, before, failed⟩
  simp only [answer, loadText, Registry.load, read, stops, bind, Except.bind]

/-- Whatever its outcome, a call leaves the entries in their places. -/
theorem entries_prefix_after (registry : Registry) (call : Call) :
    registry.entries <+: (call.after engine registry).entries := by
  cases answered : call.answer engine registry with
  | error error => exact (after_of_error answered).symm ▸ List.prefix_rfl
  | ok result =>
    obtain ⟨added, behind, _⟩ := answer_adds answered
    rw [after_of_ok answered, behind]
    exact List.prefix_append _ _

end Call

theorem WellNamed.after {registry : Registry} (wellNamed : registry.WellNamed) (call : Call) :
    (call.after engine registry).WellNamed := by
  cases answered : call.answer engine registry with
  | error error => rwa [Call.after_of_error answered]
  | ok result =>
    rw [Call.after_of_ok answered]
    cases call with
    | insertType type =>
      simp only [Call.answer, bind_eq_ok_iff, pure_eq_ok_iff] at answered
      obtain ⟨_, inserted, rfl⟩ := answered
      have bears : (Entry.type type).asType.name = type.name := rfl
      exact wellNamed.insert bears inserted
    | insertUnion union =>
      simp only [Call.answer, bind_eq_ok_iff, pure_eq_ok_iff] at answered
      obtain ⟨_, inserted, rfl⟩ := answered
      have bears : (Entry.union union).asType.name = union.name := rfl
      exact wellNamed.insert bears inserted
    | load text supply =>
      simp only [Call.answer, bind_eq_ok_iff, pure_eq_ok_iff] at answered
      obtain ⟨_, loaded, rfl⟩ := answered
      exact wellNamed.loadText loaded

/-! ### Runs -/

/-- What the holder is left with after a number of calls. -/
def run (engine : PatternEngine) (registry : Registry) (calls : List Call) : Registry :=
  calls.foldl (Call.after engine) registry

theorem run_concat (registry : Registry) (calls : List Call) (call : Call) :
    registry.run engine (calls ++ [call]) = call.after engine (registry.run engine calls) :=
  List.foldl_concat ..

theorem WellNamed.run {registry : Registry} (wellNamed : registry.WellNamed)
    (calls : List Call) : (registry.run engine calls).WellNamed := by
  induction calls generalizing registry with
  | nil => exact wellNamed
  | cons call rest inductionHypothesis => exact inductionHypothesis (wellNamed.after call)

/-- Whatever calls are made of the empty or the standard registry, every name stays the name of
what it stands for, and no name comes to stand for two things. Each further call leaves the entries
that were there as they were and where they were. If it fails, which a load does at the first
declaration that cannot be made, nothing else is there afterwards; otherwise there are in addition
exactly the names that it has registered, in their order, and a type or union that was registered
by itself is the only new entry. -/
theorem run_registers (start : Registry) (origin : start = .empty ∨ start = .standard)
    (calls : List Call) (call : Call) :
    let before := start.run engine calls
    let after := start.run engine (calls ++ [call])
    before.WellNamed ∧ before.entries <+: after.entries ∧
      (∀ error, call.answer engine before = .error error → after = before) ∧
      (∀ text supply file fine name declaration later middle left error,
        call = .load text supply → DefinitionFile.read text = .ok file →
        file.types = fine ++ (name, declaration) :: later →
        before.declareAll engine fine supply = .ok (middle, left) →
        middle.declare engine name declaration left = .error error →
        call.answer engine before = .error error ∧ after = before) ∧
      ∀ extended names, call.answer engine before = .ok (extended, names) →
        after = extended ∧ ∃ added, after.entries = before.entries ++ added ∧
          Table.keys added = names ∧
          (∀ type, call = .insertType type → added = [(type.name, .type type)]) ∧
          ∀ union, call = .insertUnion union → added = [(union.name, .union union)] := by
  intro before after
  have stepped : after = call.after engine before := run_concat start calls call
  have wellNamed : start.WellNamed := by
    rcases origin with rfl | rfl
    · exact wellNamed_empty
    · exact wellNamed_standard
  refine ⟨wellNamed.run calls, ?_, ?_, ?_, ?_⟩
  · rw [stepped]
    exact Call.entries_prefix_after before call
  · intro error failed
    exact stepped.trans (Call.after_of_error failed)
  · rintro text supply file fine name declaration later middle left error rfl read split done failed
    have answered := Call.answer_load_of_declare read split done failed
    exact ⟨answered, stepped.trans (Call.after_of_error answered)⟩
  · intro extended names answered
    have ends : after = extended := stepped.trans (Call.after_of_ok answered)
    exact ⟨ends, ends ▸ Call.answer_adds answered⟩

/-- A load fails at its second declaration, and with that the first one is not registered either,
although it only refers to the type that was registered before. -/
theorem run_registers_drawing :
    let point : Descriptor := .record (.made 0) "Point" [("x", Standard.number)]
    let lines : Call := .load "\x7b\"types\": \x7b\"Line\": \x7b\"data\":
\x7b\"to\": \"Point\"\x7d\x7d, \"Path\": \x7b\"data\":
\x7b\"by\": \"Lines\"\x7d\x7d\x7d\x7d" ⟨1⟩
    let drawn := standard.run Pattern.engine [.insertType point]
    drawn.entries = standard.entries ++ [("Point", .type point)] ∧
      (∃ error, lines.answer Pattern.engine drawn = .error error ∧
        error.message = "bad definition for `Path.by`: unknown type `Lines`") ∧
      standard.run Pattern.engine [.insertType point, lines] = drawn ∧
      (standard.run Pattern.engine [.insertType point, lines]).WellNamed := by
  intro point lines drawn
  have inserted : (Call.insertType point).answer Pattern.engine standard =
      .ok (drawn, ["Point"]) := rfl
  have reports : (match lines.answer Pattern.engine drawn with
      | .error error => some error.message
      | .ok _ => none) = some "bad definition for `Path.by`: unknown type `Lines`" := by
    decide +kernel
  have fails : ∃ error, lines.answer Pattern.engine drawn = .error error ∧
      error.message = "bad definition for `Path.by`: unknown type `Lines`" := by
    cases failed : lines.answer Pattern.engine drawn with
    | error error =>
      rw [failed] at reports
      exact ⟨error, rfl, Option.some.inj reports⟩
    | ok result =>
      rw [failed] at reports
      cases reports
  obtain ⟨error, failed, message⟩ := fails
  obtain ⟨_, _, _, _, registered⟩ := run_registers standard (.inr rfl) [] (.insertType point)
  obtain ⟨_, _, unchanged, _⟩ := run_registers standard (.inr rfl) [.insertType point] lines
  obtain ⟨wellNamed, _⟩ := run_registers standard (.inr rfl) [.insertType point, lines] lines
  obtain ⟨_, added, behind, _, only, _⟩ := registered drawn ["Point"] inserted
  rw [only point rfl] at behind
  exact ⟨behind, ⟨error, failed, message⟩, unchanged error failed, wellNamed⟩

end Registry

end JsonShape
