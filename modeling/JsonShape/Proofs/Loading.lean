/-
This file says which documents a run works on, and what keeps it from getting them.
The sources stand for paths, each path is read in its turn, each text is cut into
documents, and of each document a part is selected. The result is all or nothing: the
documents of all paths, one path after the other (`loadDocuments_eq_ok_iff`), or the first
thing that went wrong on the way (`loadDocuments_eq_error_iff`).
-/

import JsonShape.CommandLine.Run
import JsonShape.Proofs.Reading
import Mathlib.Data.List.Forall2

namespace JsonShape

/-! ### A step for each item of a list -/

section Each

variable {Failure Item Result : Type} {step : Item → Except Failure Result} {items : List Item}

/-- Taking a step for each item succeeds if every single step does. -/
theorem mapM_eq_ok_iff {results : List Result} :
    items.mapM step = .ok results ↔
      List.Forall₂ (fun item result => step item = .ok result) items results := by
  induction items generalizing results with
  | nil =>
    rw [List.mapM_nil, pure_eq_ok_iff, List.forall₂_nil_left_iff]
    exact eq_comm
  | cons item rest inductionHypothesis =>
    simp only [List.mapM_cons, bind_eq_ok_iff, pure_eq_ok_iff, inductionHypothesis,
      List.forall₂_cons_left_iff]
    constructor
    · rintro ⟨result, taken, others, taking, rfl⟩
      exact ⟨result, others, taken, taking, rfl⟩
    · rintro ⟨result, others, taken, taking, rfl⟩
      exact ⟨result, taken, others, taking, rfl⟩

theorem exists_mapM_iff :
    (∃ results, items.mapM step = .ok results) ↔
      ∀ item ∈ items, ∃ result, step item = .ok result := by
  induction items with
  | nil => exact iff_of_true ⟨[], rfl⟩ (List.forall_mem_nil _)
  | cons item rest inductionHypothesis =>
    simp only [List.forall_mem_cons, ← inductionHypothesis, List.mapM_cons, bind_eq_ok_iff,
      pure_eq_ok_iff]
    constructor
    · rintro ⟨_, result, taken, others, taking, _⟩
      exact ⟨⟨result, taken⟩, others, taking⟩
    · rintro ⟨⟨result, taken⟩, others, taking⟩
      exact ⟨_, result, taken, others, taking, rfl⟩

/-- The first step that fails decides. -/
theorem mapM_eq_error_iff {failure : Failure} :
    items.mapM step = .error failure ↔
      ∃ before item after, items = before ++ item :: after ∧
        (∀ earlier ∈ before, ∃ result, step earlier = .ok result) ∧
        step item = .error failure := by
  induction items with
  | nil => simp [pure, Except.pure]
  | cons head rest inductionHypothesis =>
    simp only [List.mapM_cons, bind_eq_error_iff, pure_eq_error_iff, inductionHypothesis,
      and_false, exists_false, or_false]
    constructor
    · rintro (failed | ⟨result, taken, before, item, after, rfl, earlier, failed⟩)
      · exact ⟨[], head, rest, rfl, List.forall_mem_nil _, failed⟩
      · exact ⟨head :: before, item, after, rfl,
          List.forall_mem_cons.mpr ⟨⟨result, taken⟩, earlier⟩, failed⟩
    · rintro ⟨before, item, after, split, earlier, failed⟩
      cases before with
      | nil =>
        obtain ⟨rfl, rfl⟩ := List.cons.inj split
        exact Or.inl failed
      | cons first others =>
        obtain ⟨rfl, rfl⟩ := List.cons.inj split
        obtain ⟨⟨result, taken⟩, earlier⟩ := List.forall_mem_cons.mp earlier
        exact Or.inr ⟨result, taken, others, item, after, rfl, earlier, failed⟩

end Each

section Outcome

variable {Failure Result Other : Type} {outcome : Except Failure Result}

theorem map_eq_ok_iff {change : Result → Other} {other : Other} :
    outcome.map change = .ok other ↔ ∃ result, outcome = .ok result ∧ change result = other := by
  cases outcome <;> simp [Except.map]

theorem map_eq_error_iff {change : Result → Other} {failure : Failure} :
    outcome.map change = .error failure ↔ outcome = .error failure := by
  cases outcome <;> simp [Except.map]

theorem mapError_eq_ok_iff {change : Failure → Other} {result : Result} :
    outcome.mapError change = .ok result ↔ outcome = .ok result := by
  cases outcome <;> simp [Except.mapError]

theorem mapError_eq_error_iff {change : Failure → Other} {other : Other} :
    outcome.mapError change = .error other ↔
      ∃ failure, outcome = .error failure ∧ change failure = other := by
  cases outcome <;> simp [Except.mapError]

end Outcome

/-! ### The documents of a path -/

/-- The parts that the settings select of the documents of a path, if it can be read, cut into
documents, and each of them has the part. -/
def PathGives (settings : InputSettings) (surroundings : Surroundings) (path : String)
    (parts : List Document) : Prop :=
  ∃ origin text whole, sourceOf surroundings path = .ok (origin, text) ∧
    documentsOf origin text settings.lines = .ok whole ∧
    List.Forall₂ (fun document part => Document.select settings.pointer document = .ok part)
      whole parts

/-- What is wrong with a path: it cannot be read, its text does not consist of documents, or one
of them, the first, lacks the part to be selected. -/
inductive PathFault (settings : InputSettings) (surroundings : Surroundings) (path : String) :
    RunError → Prop
  | unread {error : RunError} (failed : sourceOf surroundings path = .error error) :
      PathFault settings surroundings path error
  | unparsed {origin text : String} {error : DocumentError}
      (read : sourceOf surroundings path = .ok (origin, text))
      (failed : documentsOf origin text settings.lines = .error error) :
      PathFault settings surroundings path (.document error)
  | unselected {origin text : String} {before after : List Document} {document : Document}
      {error : DocumentError} (read : sourceOf surroundings path = .ok (origin, text))
      (cut : documentsOf origin text settings.lines = .ok (before ++ document :: after))
      (earlier : ∀ other ∈ before, ∃ part, Document.select settings.pointer other = .ok part)
      (failed : Document.select settings.pointer document = .error error) :
      PathFault settings surroundings path (.document error)

section Path

variable {settings : InputSettings} {surroundings : Surroundings} {path : String}

/-- What is selected of a text is given by the path it was read from. -/
theorem selectedDocuments_eq_ok_iff {origin text : String} {parts : List Document} :
    selectedDocuments settings origin text = .ok parts ↔
      ∃ whole, documentsOf origin text settings.lines = .ok whole ∧
        List.Forall₂ (fun document part => Document.select settings.pointer document = .ok part)
          whole parts := by
  simp only [selectedDocuments, bind_eq_ok_iff, mapM_eq_ok_iff]

theorem documentsOfPath_eq_ok_iff {parts : List Document} :
    documentsOfPath settings surroundings path = .ok parts ↔
      PathGives settings surroundings path parts := by
  simp only [documentsOfPath, bind_eq_ok_iff, Prod.exists, mapError_eq_ok_iff,
    selectedDocuments_eq_ok_iff, PathGives, exists_and_left]

theorem documentsOfPath_eq_error_iff {error : RunError} :
    documentsOfPath settings surroundings path = .error error ↔
      PathFault settings surroundings path error := by
  simp only [documentsOfPath, bind_eq_error_iff, Prod.exists, mapError_eq_error_iff,
    selectedDocuments, mapM_eq_error_iff]
  constructor
  · rintro (failed | ⟨origin, text, read, fault, failed | ⟨whole, cut, missed⟩, rfl⟩)
    · exact .unread failed
    · exact .unparsed read failed
    · obtain ⟨before, document, after, rfl, earlier, failed⟩ := missed
      exact .unselected read cut earlier failed
  · intro fault
    cases fault with
    | unread failed => exact Or.inl failed
    | unparsed read failed => exact Or.inr ⟨_, _, read, _, Or.inl failed, rfl⟩
    | unselected read cut earlier failed =>
      exact Or.inr ⟨_, _, read, _, Or.inr ⟨_, cut, _, _, _, rfl, earlier, failed⟩, rfl⟩

end Path

/-! ### The documents of all sources -/

/-- The paths, each with the surroundings in which it is read: the standard input is used up by the
first path that stands for it. -/
def inTurn (surroundings : Surroundings) : List String → List (Surroundings × String)
  | [] => []
  | path :: paths => (surroundings, path) :: inTurn (surroundings.after path) paths

/-- The documents that the sources give, path after path. -/
def InputGives (settings : InputSettings) (surroundings : Surroundings)
    (documents : List Document) : Prop :=
  ∃ paths parts,
    List.Forall₂ (fun source found => pathsOf surroundings.files source = .ok found)
      settings.sources paths ∧
    List.Forall₂ (fun place part => PathGives settings place.1 place.2 part)
      (inTurn surroundings paths.flatten) parts ∧
    documents = parts.flatten

/-- What is wrong with the sources: one of them, the first, stands for no paths, or something is
wrong with one of the paths, the first again. -/
inductive InputFault (settings : InputSettings) (surroundings : Surroundings) : RunError → Prop
  | source {before after : List String} {source : String} {error : RunError}
      (sources : settings.sources = before ++ source :: after)
      (earlier : ∀ other ∈ before, ∃ found, pathsOf surroundings.files other = .ok found)
      (failed : pathsOf surroundings.files source = .error error) :
      InputFault settings surroundings error
  | path {paths : List (List String)} {before after : List (Surroundings × String)}
      {place : Surroundings × String} {error : RunError}
      (found : List.Forall₂ (fun source found => pathsOf surroundings.files source = .ok found)
        settings.sources paths)
      (places : inTurn surroundings paths.flatten = before ++ place :: after)
      (earlier : ∀ other ∈ before, ∃ parts, PathGives settings other.1 other.2 parts)
      (fault : PathFault settings place.1 place.2 error) :
      InputFault settings surroundings error

/-- The paths of all sources are those of each source, one after the other. -/
theorem pathsOfAll_eq (files : FileSystem) (sources : List String) :
    pathsOfAll files sources = (sources.mapM (pathsOf files)).map List.flatten := by
  induction sources with
  | nil => rfl
  | cons source rest inductionHypothesis =>
    rw [pathsOfAll, inductionHypothesis, List.mapM_cons]
    cases pathsOf files source with
    | error error => rfl
    | ok found => cases rest.mapM (pathsOf files) <;> rfl

theorem documentsOfPaths_eq (settings : InputSettings) (surroundings : Surroundings)
    (paths : List String) :
    documentsOfPaths settings surroundings paths =
      ((inTurn surroundings paths).mapM fun place =>
        documentsOfPath settings place.1 place.2).map List.flatten := by
  induction paths generalizing surroundings with
  | nil => rfl
  | cons path rest inductionHypothesis =>
    rw [documentsOfPaths, inductionHypothesis, inTurn, List.mapM_cons]
    cases documentsOfPath settings surroundings path with
    | error error => rfl
    | ok parts =>
      cases (inTurn (surroundings.after path) rest).mapM fun place =>
        documentsOfPath settings place.1 place.2 <;> rfl

section Input

variable {settings : InputSettings} {surroundings : Surroundings}

/-- Documents are loaded if the sources give them. -/
theorem loadDocuments_eq_ok_iff {documents : List Document} :
    loadDocuments settings surroundings = .ok documents ↔
      InputGives settings surroundings documents := by
  simp only [loadDocuments, pathsOfAll_eq, documentsOfPaths_eq, bind_eq_ok_iff, map_eq_ok_iff,
    mapM_eq_ok_iff, documentsOfPath_eq_ok_iff, InputGives]
  constructor
  · rintro ⟨_, ⟨paths, found, rfl⟩, parts, given, rfl⟩
    exact ⟨paths, parts, found, given, rfl⟩
  · rintro ⟨paths, parts, found, given, rfl⟩
    exact ⟨_, ⟨paths, found, rfl⟩, parts, given, rfl⟩

/-- No documents are loaded if something is wrong with the sources. -/
theorem loadDocuments_eq_error_iff {error : RunError} :
    loadDocuments settings surroundings = .error error ↔
      InputFault settings surroundings error := by
  simp only [loadDocuments, pathsOfAll_eq, documentsOfPaths_eq, bind_eq_error_iff,
    map_eq_ok_iff, map_eq_error_iff, mapM_eq_ok_iff, mapM_eq_error_iff,
    documentsOfPath_eq_ok_iff, documentsOfPath_eq_error_iff]
  constructor
  · rintro (⟨before, source, after, sources, earlier, failed⟩ |
      ⟨_, ⟨paths, found, rfl⟩, before, place, after, places, earlier, fault⟩)
    · exact .source sources earlier failed
    · exact .path found places earlier fault
  · intro fault
    cases fault with
    | source sources earlier failed => exact Or.inl ⟨_, _, _, sources, earlier, failed⟩
    | path found places earlier fault =>
      exact Or.inr ⟨_, ⟨_, found, rfl⟩, _, _, _, places, earlier, fault⟩

end Input

end JsonShape
