/-
This file keeps account of what a registry has been told. Each call that loads a text
adds the declarations of the text, and the calls together make up a history
(`Registry.history`). A declaration stays in force for good: whatever calls follow, its
name stands for what the declaration says in the registry that they end with
(`Registry.history_denoted`), because names that are registered once are neither changed
nor removed.

Of a refinement this says how its type is built from its base in one and the same
registry, however many calls lie between the two (`Registry.history_refine`).
-/

import JsonShape.Proofs.Calls
import JsonShape.Proofs.Denotation

namespace JsonShape

namespace Registry

variable {engine : PatternEngine}

/-! ### Declarations that have been loaded -/

/-- The declarations that a call adds: those of a text, if it is loaded. -/
def Call.declarations (engine : PatternEngine) (registry : Registry) :
    Call → List (String × Declaration)
  | .load text supply =>
      match registry.loadText engine text supply, DefinitionFile.read text with
      | .ok _, .ok file => file.types
      | _, _ => []
  | _ => []

/-- The declarations that calls add one after the other. -/
def history (engine : PatternEngine) (registry : Registry) : List Call → List (String × Declaration)
  | [] => []
  | call :: rest =>
      call.declarations engine registry ++ (call.after engine registry).history engine rest

/-- The refinements among declarations. -/
def refinements (declarations : List (String × Declaration)) : List (String × Refinement) :=
  declarations.filterMap fun declared =>
    match declared.2 with
    | .refine refinement => some (declared.1, refinement)
    | _ => none

theorem mem_refinements_iff {declarations : List (String × Declaration)} {name : String}
    {refinement : Refinement} :
    (name, refinement) ∈ refinements declarations ↔ (name, .refine refinement) ∈ declarations := by
  rw [refinements, List.mem_filterMap]
  constructor
  · rintro ⟨⟨other, _ | _ | _⟩, member, same⟩
    · cases same
    · cases same
    · cases same
      exact member
  · exact fun member => ⟨_, member, rfl⟩

/-- The declarations of a call are what has led to the registry after it. -/
theorem Call.declareAll_of_mem {registry : Registry} {call : Call}
    {declared : String × Declaration} (member : declared ∈ call.declarations engine registry) :
    ∃ supply rest, registry.declareAll engine (call.declarations engine registry) supply =
      .ok (call.after engine registry, rest) := by
  cases call with
  | insertType type => cases member
  | insertUnion union => cases member
  | load text supply =>
    cases done : registry.loadText engine text supply with
    | error error => simp [declarations, done] at member
    | ok loaded =>
      obtain ⟨file, read, extended, _⟩ := loadText_eq_ok_iff.mp done
      have answered : (Call.load text supply).answer engine registry =
          .ok (loaded.registry, loaded.names) := by
        simp only [answer, bind_eq_ok_iff, pure_eq_ok_iff]
        exact ⟨loaded, done, rfl⟩
      refine ⟨supply, loaded.supply, ?_⟩
      simp only [declarations, done, read, after_of_ok answered, extended]

/-! ### What stays -/

theorem entries_prefix_run (registry : Registry) (calls : List Call) :
    registry.entries <+: (registry.run engine calls).entries := by
  induction calls generalizing registry with
  | nil => exact List.prefix_rfl
  | cons call rest inductionHypothesis =>
    exact (call.entries_prefix_after registry).trans (inductionHypothesis _)

/-- A name that is registered stands for the same entry after any calls. -/
theorem find?_run {registry : Registry} {name : String} {entry : Entry}
    (found : registry.find? name = some entry) (calls : List Call) :
    (registry.run engine calls).find? name = some entry := by
  obtain ⟨added, behind⟩ := registry.entries_prefix_run calls
  exact find?_append behind.symm found

theorem type?_run {registry : Registry} {name : String} {type : Descriptor}
    (found : registry.type? name = some type) (calls : List Call) :
    (registry.run engine calls).type? name = some type := by
  obtain ⟨entry, entryFound, rfl⟩ := Option.map_eq_some_iff.mp found
  exact Option.map_eq_some_iff.mpr ⟨entry, find?_run entryFound calls, rfl⟩

theorem anonymous?_run {registry : Registry} {name : String} {type : Descriptor}
    (known : registry.anonymous? name = some type) (calls : List Call) :
    (registry.run engine calls).anonymous? name = some type := by
  obtain ⟨added, behind⟩ := registry.entries_prefix_run calls
  exact anonymous?_append behind.symm known

/-- A declaration that was loaded at any time says, in the registry at the end, what its name stands
for. -/
theorem history_denoted {start : Registry} {calls : List Call} {declared : String × Declaration}
    (member : declared ∈ start.history engine calls) :
    ∃ entry, (start.run engine calls).find? declared.1 = some entry ∧
      declared.2.denoted? engine (start.run engine calls).anonymous? declared.1 =
        some entry.anonymous := by
  induction calls generalizing start with
  | nil => cases member
  | cons call rest inductionHypothesis =>
    rcases List.mem_append.mp member with now | later
    · obtain ⟨_, _, done⟩ := Call.declareAll_of_mem now
      obtain ⟨entry, found, denotes⟩ := declareAll_denoted done declared now
      exact ⟨entry, find?_run found rest,
        Declaration.denoted?_mono (fun other _ type known => anonymous?_run known rest) denotes⟩
    · exact inductionHypothesis later

/-- The type of a refinement accepts and describes what the refinement makes of the base, which is
found in the same registry. -/
theorem history_refine {start : Registry} {calls : List Call} {name : String}
    {refinement : Refinement} (member : (name, .refine refinement) ∈ start.history engine calls) :
    ∃ type base pattern, (start.run engine calls).type? name = some type ∧
      (start.run engine calls).type? refinement.base = some base ∧
      compilePattern engine name refinement = .ok pattern ∧
      type.accepts = refinedPredicate base pattern refinement.minimum refinement.maximum ∧
      type.schema = refinedSchema name base refinement := by
  obtain ⟨entry, found, denotes⟩ := history_denoted member
  simp only [Declaration.denoted?, bind, Option.bind_eq_some_iff, toOption_eq_some_iff, pure,
    Option.some.injEq] at denotes
  obtain ⟨effaced, known, pattern, compiled, same⟩ := denotes
  obtain ⟨base, foundBase, rfl⟩ := Option.map_eq_some_iff.mp known
  have alike : entry.anonymous.asType.Alike entry.asType :=
    entry.asType_anonymous ▸ entry.asType.alike_anonymous.symm
  rw [← same, refinedPredicate_congr base.alike_anonymous.symm,
    refinedSchema_congr base.alike_anonymous.symm] at alike
  exact ⟨entry.asType, base, pattern, Option.map_eq_some_iff.mpr ⟨entry, found, rfl⟩, foundBase,
    compiled, alike.accepts.symm, alike.schema.symm⟩

end Registry

end JsonShape
