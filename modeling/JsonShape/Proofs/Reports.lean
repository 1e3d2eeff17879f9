/-
This file shows that the reports on documents are faithful. A check and a dispatch go the
same way: the definitions are loaded, the name is looked up, and all documents are loaded
before the first of them is looked at (`report_cases`). Whatever stops a run on this way is
the only thing that it prints. If nothing does, what is printed is determined by the
documents, in their order, and by what the type or the union makes of each of them
(`check_transcript`, `dispatch_transcript`).

A dispatch never lacks a handler, because there is one for every variant, and a value is
dispatched to a variant of the union (`Union.case_namingHandlers`).
-/

import JsonShape.Pattern.Basic
import JsonShape.Proofs.Dispatch
import JsonShape.Proofs.Loading

namespace JsonShape

/-! ### Counting verdicts -/

theorem failures_le_length (verdicts : List Verdict) : failures verdicts ≤ verdicts.length :=
  List.countP_le_length

/-- Documents that do not fail pass. -/
theorem length_sub_failures (verdicts : List Verdict) :
    verdicts.length - failures verdicts = verdicts.countP Verdict.passed := by
  have all := List.length_eq_countP_add_countP Verdict.passed (l := verdicts)
  have failed : failures verdicts = verdicts.countP fun verdict => decide ¬verdict.passed = true :=
    List.countP_congr fun verdict _ => by simp
  omega

/-- What a report makes of verdicts. -/
theorem transcriptOf_reportOn (files : FileSystem) (verdicts : List Verdict) :
    transcriptOf (.ok (reportOn files verdicts)) =
      ⟨printed (verdicts.flatMap Verdict.output),
        printed (verdicts.flatMap Verdict.messages ++
          [toString (verdicts.countP Verdict.passed) ++ " of " ++ toString verdicts.length ++
            " documents passed"]),
        decide (verdicts.countP Verdict.passed = verdicts.length)⟩ := by
  have none : (failures verdicts == 0) =
      decide (verdicts.countP Verdict.passed = verdicts.length) := by
    have counted := length_sub_failures verdicts
    have bound := failures_le_length verdicts
    rw [Bool.eq_iff_iff, beq_iff_eq, decide_eq_true_iff]
    omega
  simp only [transcriptOf, reportOn, summaryLine, length_sub_failures, none]

/-! ### The way to a report -/

/-- The way that a check and a dispatch have in common: what the name stands for is found by `find`,
and it gives a verdict on each document. -/
def reportWith {Named : Type} (engine : PatternEngine) (find : Registry → Except RunError Named)
    (verdict : Named → Document → Verdict) (definitions : List String) (input : InputSettings)
    (surroundings : Surroundings) : Except RunError Report := do
  let registry ← registryOf engine surroundings.files definitions
  let named ← find registry
  let documents ← loadDocuments input surroundings
  return reportOn surroundings.files (documents.map (verdict named))

/-- What stops a run before it looks at a document: definitions that do not load, a name that they
do not have, or something that is wrong with the input. -/
inductive ReportFault {Named : Type} (engine : PatternEngine)
    (find : Registry → Except RunError Named) (definitions : List String) (input : InputSettings)
    (surroundings : Surroundings) : RunError → Prop
  | definitions {error : RunError}
      (failed : registryOf engine surroundings.files definitions = .error error) :
      ReportFault engine find definitions input surroundings error
  | name {registry : Registry} {error : RunError}
      (loaded : registryOf engine surroundings.files definitions = .ok registry)
      (missing : find registry = .error error) :
      ReportFault engine find definitions input surroundings error
  | input {registry : Registry} {named : Named} {error : RunError}
      (loaded : registryOf engine surroundings.files definitions = .ok registry)
      (found : find registry = .ok named) (fault : InputFault input surroundings error) :
      ReportFault engine find definitions input surroundings error

theorem report_cases {Named : Type} (engine : PatternEngine)
    (find : Registry → Except RunError Named) (verdict : Named → Document → Verdict)
    (definitions : List String) (input : InputSettings) (surroundings : Surroundings) :
    let run := reportWith engine find verdict definitions input surroundings
    (∃ error, ReportFault engine find definitions input surroundings error ∧ run = .error error ∧
        transcriptOf run = ⟨"", printed ["error: " ++ error.message], false⟩) ∨
      ∃ registry named documents, registryOf engine surroundings.files definitions = .ok registry ∧
        find registry = .ok named ∧ InputGives input surroundings documents ∧
        run = .ok (reportOn surroundings.files (documents.map (verdict named))) := by
  intro run
  cases ended : run with
  | error error =>
    left
    simp only [run, reportWith, bind_eq_error_iff, pure_eq_error_iff, and_false, exists_false,
      or_false, loadDocuments_eq_error_iff] at ended
    refine ⟨error, ?_, rfl, rfl⟩
    rcases ended with failed | ⟨registry, loaded, missing | ⟨named, found, fault⟩⟩
    · exact .definitions failed
    · exact .name loaded missing
    · exact .input loaded found fault
  | ok report =>
    right
    simp only [run, reportWith, bind_eq_ok_iff, pure_eq_ok_iff, loadDocuments_eq_ok_iff] at ended
    obtain ⟨registry, loaded, named, found, documents, given, rfl⟩ := ended
    exact ⟨registry, named, documents, loaded, found, given, rfl⟩

theorem namedType_eq_ok_iff {registry : Registry} {name : String} {type : Descriptor} :
    namedType registry name = .ok type ↔ registry.type? name = some type := by
  unfold namedType
  cases registry.type? name <;> simp

theorem namedUnion_eq_ok_iff {registry : Registry} {name : String} {union : Union} :
    namedUnion registry name = .ok union ↔ registry.union? name = some union := by
  unfold namedUnion
  cases registry.union? name <;> simp

/-! ### Checking -/

namespace Descriptor

/-- What a document is constructed to. -/
def built? (type : Descriptor) (document : Document) : Option Json :=
  (type.construct document.value).outcome.toOption.map Instance.value

/-- The line that reports on a document. -/
def reportLine (type : Descriptor) (document : Document) : String :=
  match (type.construct document.value).outcome with
  | .ok _ => passedLine document.origin
  | .error rejection => failedLine document.origin rejection.message

end Descriptor

theorem failedLine_ne_passedLine (origin reason other : String) :
    failedLine origin reason ≠ passedLine other := by
  intro same
  have heads := congrArg (fun line => line.toList.head?) same
  simp [failedLine, passedLine] at heads

/-- A document is reported as passed exactly if it is constructed. -/
theorem reportLine_eq_passedLine_iff {type : Descriptor} {document : Document} :
    type.reportLine document = passedLine document.origin ↔
      ∃ made, (type.construct document.value).outcome = .ok made := by
  unfold Descriptor.reportLine
  cases (type.construct document.value).outcome with
  | ok made => simp
  | error rejection => simp [failedLine_ne_passedLine]

theorem checkDocument_eq (type : Descriptor) (emit trace : Bool) (document : Document) :
    checkDocument type emit trace document =
      ⟨if emit then (type.built? document).toList.map Json.text else [],
        traceLines trace (type.construct document.value).lines ++ [type.reportLine document],
        (type.built? document).isSome⟩ := by
  unfold checkDocument Descriptor.built? Descriptor.reportLine
  cases built : (type.construct document.value).outcome <;> simp [built, Except.toOption]

theorem countP_passed_checkDocument (type : Descriptor) (emit trace : Bool)
    (documents : List Document) :
    (documents.map (checkDocument type emit trace)).countP Verdict.passed =
      documents.countP fun document => (type.built? document).isSome := by
  rw [List.countP_map]
  refine List.countP_congr fun document _ => ?_
  rw [Function.comp_apply, checkDocument_eq]

/-- What checks print: the values that were constructed, and on the other output a line for each
document and their number. -/
theorem transcriptOf_checkDocument (files : FileSystem) (type : Descriptor) (emit trace : Bool)
    (documents : List Document) :
    transcriptOf (.ok (reportOn files (documents.map (checkDocument type emit trace)))) =
      ⟨printed (if emit then (documents.filterMap type.built?).map Json.text else []),
        printed (documents.flatMap (fun document =>
            traceLines trace (type.construct document.value).lines ++
              [type.reportLine document]) ++
          [toString (documents.countP fun document => (type.built? document).isSome) ++ " of " ++
            toString documents.length ++ " documents passed"]),
        decide ((documents.countP fun document => (type.built? document).isSome) =
          documents.length)⟩ := by
  have output : (documents.flatMap fun document =>
      if emit then (type.built? document).toList.map Json.text else []) =
      if emit then (documents.filterMap type.built?).map Json.text else [] := by
    cases emit with
    | false => simp
    | true =>
      simp only [if_true]
      rw [List.filterMap_eq_flatMap_toList, List.map_flatMap]
  rw [transcriptOf_reportOn, List.flatMap_map, List.flatMap_map, countP_passed_checkDocument,
    List.length_map]
  simp only [checkDocument_eq, output]

/-- A check either stops before the first document, and then the error is all that it prints, or it
works on all documents of the input. Then it prints the compact text of every constructed value, in
the order of the documents and only on demand, and on the other output a line for each document in
its turn, behind the lines of its trace, and last the number of those that passed, which is what
remains when the failures are taken away. It is a success if no document failed. -/
theorem check_transcript (engine : PatternEngine) (definitions : List String) (name : String)
    (input : InputSettings) (emit trace : Bool) (surroundings : Surroundings) :
    let run := Request.run engine ⟨definitions, .check name input emit, trace⟩ surroundings
    (∃ error, ReportFault engine (namedType · name) definitions input surroundings error ∧
        run = .error error ∧
        transcriptOf run = ⟨"", printed ["error: " ++ error.message], false⟩) ∨
      ∃ registry type documents, registryOf engine surroundings.files definitions = .ok registry ∧
        registry.type? name = some type ∧ InputGives input surroundings documents ∧
        (∀ document ∈ documents, type.reportLine document = passedLine document.origin ↔
          ∃ made, (type.construct document.value).outcome = .ok made) ∧
        let passed := documents.countP fun document => (type.built? document).isSome
        let failed := failures (documents.map (checkDocument type emit trace))
        failed ≤ documents.length ∧ documents.length - failed = passed ∧
          transcriptOf run =
            ⟨printed (if emit then (documents.filterMap type.built?).map Json.text else []),
              printed (documents.flatMap (fun document =>
                  traceLines trace (type.construct document.value).lines ++
                    [type.reportLine document]) ++
                [toString passed ++ " of " ++ toString documents.length ++ " documents passed"]),
              decide (passed = documents.length)⟩ := by
  intro run
  rcases report_cases engine (namedType · name) (checkDocument · emit trace) definitions input
    surroundings with stopped | ⟨registry, type, documents, loaded, found, given, ended⟩
  · exact Or.inl stopped
  · have counted := length_sub_failures (documents.map (checkDocument type emit trace))
    have bound := failures_le_length (documents.map (checkDocument type emit trace))
    rw [List.length_map] at counted bound
    refine Or.inr ⟨registry, type, documents, loaded, namedType_eq_ok_iff.mp found, given,
      fun document _ => reportLine_eq_passedLine_iff, bound, ?_, ?_⟩
    · rw [counted, countP_passed_checkDocument]
    · rw [show run = _ from ended, transcriptOf_checkDocument]

/-- Definitions of a record and of a union, and readings with a blank line between them. -/
def signalFiles : FileSystem where
  root := .directory [
    ("gauges", .file "\x7b\"types\":
\x7b\"Gauge\":\x7b\"data\":\x7b\"on\":\"Boolean\"\x7d\x7d\x7d\x7d".toUTF8),
    ("readings", .file "\x7b\"on\":true,\"at\":[]\x7d\n\n\x7b\"on\":null\x7d\r\n".toUTF8),
    ("signals", .file "\x7b\"types\":\x7b\"Signal\":\x7b\"union\":
\x7b\"Flag\":\"Boolean\",\"Gauge\":\x7b\"on\":\"Boolean\"\x7d\x7d\x7d\x7d\x7d".toUTF8)]
  working := []

/-- Two of three readings are gauges, and they are printed without what a gauge does not declare.
With a source that is not there, nothing of this is printed. -/
theorem check_transcript_gauge :
    let surroundings : Surroundings := ⟨signalFiles, "\x7b\"on\":false\x7d".toUTF8⟩
    let input : InputSettings := ⟨true, none, ["readings", "-"]⟩
    let longer : InputSettings := ⟨true, none, ["readings", "-", "absent"]⟩
    let shown : Transcript := ⟨"\x7b\"on\":true\x7d\n\x7b\"on\":false\x7d\n",
      "Boolean true\nGauge \x7b\"on\":true\x7d\n✅ readings:1\n" ++
        "❌ readings:3: null is not a valid Boolean (at on)\n" ++
        "Boolean false\nGauge \x7b\"on\":false\x7d\n✅ <stdin>:1\n" ++
        "2 of 3 documents passed\n", false⟩
    transcriptOf (Request.run Pattern.engine ⟨["gauges"], .check "Gauge" input true, true⟩
        surroundings) = shown ∧
      (∃ registry type documents, registryOf Pattern.engine signalFiles ["gauges"] = .ok registry ∧
        registry.type? "Gauge" = some type ∧ InputGives input surroundings documents ∧
        documents.length - failures (documents.map (checkDocument type true true)) =
          documents.countP fun document => (type.built? document).isSome) ∧
      ∃ error,
        ReportFault Pattern.engine (namedType · "Gauge") ["gauges"] longer surroundings error ∧
        transcriptOf (Request.run Pattern.engine ⟨["gauges"], .check "Gauge" longer true, true⟩
            surroundings) =
          ⟨"", printed ["error: " ++ error.message], false⟩ := by
  intro surroundings input longer shown
  have reported : transcriptOf (Request.run Pattern.engine
      ⟨["gauges"], .check "Gauge" input true, true⟩ surroundings) = shown := by decide +kernel
  have spoken : shown.output ≠ "" := by decide
  have absent : (loadDocuments longer surroundings).toOption.isSome = false := by decide +kernel
  refine ⟨reported, ?_, ?_⟩
  · rcases check_transcript Pattern.engine ["gauges"] "Gauge" input true true surroundings with
      ⟨_, _, _, silent⟩ | ⟨registry, type, documents, loaded, found, given, _, _, counted, _⟩
    · exact absurd (congrArg Transcript.output (reported.symm.trans silent)) spoken
    · exact ⟨registry, type, documents, loaded, found, given, counted⟩
  · rcases check_transcript Pattern.engine ["gauges"] "Gauge" longer true true surroundings with
      ⟨error, fault, _, silent⟩ | ⟨_, _, documents, _, _, given, _⟩
    · exact ⟨error, fault, silent⟩
    · rw [loadDocuments_eq_ok_iff.mpr given] at absent
      cases absent

/-! ### Dispatching -/

/-- Under each of the names the entry made for it is found. -/
theorem Table.find?_map_of_mem {Content : Type} {names : List String} {content : String → Content}
    {key : String} (member : key ∈ names) :
    find? (names.map fun name => (name, content name)) key = some (content key) := by
  induction names with
  | nil => cases member
  | cons name rest inductionHypothesis =>
    by_cases same : name = key
    · simp [find?, same]
    · rw [List.map_cons, find?, if_neg same]
      exact inductionHypothesis (List.mem_of_ne_of_mem (Ne.symm same) member)

/-- Every variant has a handler, and it answers with the name. -/
theorem find?_namingHandlers {union : Union} {name : String} (member : name ∈ union.variantNames) :
    Table.find? (namingHandlers union) name = some fun _ => name := by
  have written : namingHandlers union =
      Table.ofList (union.variantNames.map fun name => (name, fun _ => name)) := by
    rw [Table.ofList, List.foldl_map]
    rfl
  rw [written, Table.find?_ofList, ← List.map_reverse]
  exact Table.find?_map_of_mem (List.mem_reverse.mpr member)

namespace Union

/-- Whatever is dispatched is dispatched to a variant of the union. -/
theorem mem_variantNames_of_variantOf? {union : Union} {subject : Subject} {name : String}
    (found : union.variantOf? subject = some name) : name ∈ union.variantNames := by
  unfold variantOf? at found
  split at found
  · rename_i byTag tagFound
    obtain rfl := Option.some.inj found
    obtain ⟨tag, _, named⟩ := Option.bind_eq_some_iff.mp tagFound
    obtain ⟨variant, member, _, rfl⟩ := exists_variant_of_tag named
    exact List.mem_map_of_mem member
  · rw [firstAccepting?_eq_head?] at found
    obtain ⟨variant, member, _, rfl⟩ := mem_matching_iff.mp (List.mem_of_head? found)
    exact List.mem_map_of_mem member

/-- With the handlers that name their variant, a dispatch fails only for want of a variant. -/
theorem case_namingHandlers (union : Union) (subject : Subject) :
    union.case subject (namingHandlers union) =
      match union.variantOf? subject with
      | some name => .ok name
      | none => .error (.noVariantMatched union.name subject.value) := by
  unfold case
  cases found : union.variantOf? subject with
  | none => rfl
  | some name =>
    simp only [find?_namingHandlers (mem_variantNames_of_variantOf? found)]

/-- No handler is ever missing. -/
theorem case_namingHandlers_ne (union : Union) (subject : Subject) (owner variant : String) :
    union.case subject (namingHandlers union) ≠ .error (.missingHandler owner variant) := by
  rw [case_namingHandlers]
  cases union.variantOf? subject <;> simp

end Union

/-- The line of a document under the name of the first variant that accepts its value. -/
def dispatchLine? (union : Union) (document : Document) : Option String :=
  (union.matching document.value).head?.map fun variant => document.origin ++ "\t" ++ variant

/-- The line of a document that no variant accepts. -/
def strayLine? (union : Union) (document : Document) : Option String :=
  if (union.matching document.value).isEmpty then
    some (failedLine document.origin
      (DispatchError.noVariantMatched union.name document.value).message)
  else none

theorem dispatchDocument_eq (union : Union) (document : Document) :
    dispatchDocument union document =
      ⟨(dispatchLine? union document).toList, (strayLine? union document).toList,
        union.asType.accepts document.value⟩ := by
  have first : union.variantOf? (.raw document.value) = (union.matching document.value).head? :=
    Union.firstAccepting?_eq_head? union document.value
  have accepts : union.matching document.value ≠ [] ↔
      union.asType.accepts document.value = true := Union.matching_ne_nil_iff
  unfold dispatchDocument dispatchLine? strayLine?
  rw [Union.case_namingHandlers, first]
  cases matched : union.matching document.value with
  | nil =>
    have refused : union.asType.accepts document.value = false := by
      rw [← Bool.not_eq_true, ← accepts]
      exact fun some => some matched
    simp [refused, Subject.value]
  | cons name rest =>
    have accepted : union.asType.accepts document.value = true :=
      accepts.mp (matched ▸ List.cons_ne_nil _ _)
    simp [accepted]

/-- What dispatches print: the lines of the documents that some variant accepts, and on the other
output the lines of those that none accepts and the number of the former. -/
theorem transcriptOf_dispatchDocument (files : FileSystem) (union : Union)
    (documents : List Document) :
    transcriptOf (.ok (reportOn files (documents.map (dispatchDocument union)))) =
      ⟨printed (documents.filterMap (dispatchLine? union)),
        printed (documents.filterMap (strayLine? union) ++
          [toString (documents.countP fun document => union.asType.accepts document.value) ++
            " of " ++ toString documents.length ++ " documents passed"]),
        decide (∀ document ∈ documents, union.asType.accepts document.value = true)⟩ := by
  have passed : (documents.map (dispatchDocument union)).countP Verdict.passed =
      documents.countP fun document => union.asType.accepts document.value := by
    rw [List.countP_map]
    refine List.countP_congr fun document _ => ?_
    rw [Function.comp_apply, dispatchDocument_eq]
  rw [transcriptOf_reportOn, List.flatMap_map, List.flatMap_map, passed, List.length_map]
  simp only [dispatchDocument_eq, List.filterMap_eq_flatMap_toList, List.countP_eq_length]

/-- A dispatch either stops before the first document, and then the error is all that it prints, or
it works on all documents of the input. No handler is ever missing then. Every document that some
variant of the union accepts is printed with the name of the first such variant, in the order of
the documents, and nothing else is; every other one is reported as accepted by no variant. It is a
success if the union accepts every document. -/
theorem dispatch_transcript (engine : PatternEngine) (definitions : List String) (name : String)
    (input : InputSettings) (trace : Bool) (surroundings : Surroundings) :
    let run := Request.run engine ⟨definitions, .dispatch name input, trace⟩ surroundings
    (∃ error, ReportFault engine (namedUnion · name) definitions input surroundings error ∧
        run = .error error ∧
        transcriptOf run = ⟨"", printed ["error: " ++ error.message], false⟩) ∨
      ∃ registry union documents, registryOf engine surroundings.files definitions = .ok registry ∧
        registry.union? name = some union ∧ InputGives input surroundings documents ∧
        (∀ subject owner variant,
          union.case subject (namingHandlers union) ≠ .error (.missingHandler owner variant)) ∧
        transcriptOf run =
          ⟨printed (documents.filterMap (dispatchLine? union)),
            printed (documents.filterMap (strayLine? union) ++
              [toString (documents.countP fun document => union.asType.accepts document.value) ++
                " of " ++ toString documents.length ++ " documents passed"]),
            decide (∀ document ∈ documents, union.asType.accepts document.value = true)⟩ := by
  intro run
  rcases report_cases engine (namedUnion · name) dispatchDocument definitions input
    surroundings with stopped | ⟨registry, union, documents, loaded, found, given, ended⟩
  · exact Or.inl stopped
  · refine Or.inr ⟨registry, union, documents, loaded, namedUnion_eq_ok_iff.mp found, given,
      union.case_namingHandlers_ne, ?_⟩
    rw [show run = _ from ended, transcriptOf_dispatchDocument]

/-- Of three readings one is a gauge, one is a flag, and one is nothing of the kind. -/
theorem dispatch_transcript_signal :
    let surroundings : Surroundings := ⟨signalFiles, "false".toUTF8⟩
    let input : InputSettings := ⟨true, none, ["readings", "-"]⟩
    let shown : Transcript := ⟨"readings:1\tGauge\n<stdin>:1\tFlag\n",
      "❌ readings:3: no variant of Signal accepts \x7b\"on\":null\x7d\n" ++
        "2 of 3 documents passed\n", false⟩
    transcriptOf (Request.run Pattern.engine ⟨["signals"], .dispatch "Signal" input, false⟩
        surroundings) = shown ∧
      ∃ registry union documents, registryOf Pattern.engine signalFiles ["signals"] = .ok registry ∧
        registry.union? "Signal" = some union ∧ InputGives input surroundings documents ∧
        shown.output = printed (documents.filterMap (dispatchLine? union)) ∧
        ∀ subject owner variant,
          union.case subject (namingHandlers union) ≠ .error (.missingHandler owner variant) := by
  intro surroundings input shown
  have reported : transcriptOf (Request.run Pattern.engine
      ⟨["signals"], .dispatch "Signal" input, false⟩ surroundings) = shown := by decide +kernel
  have spoken : shown.output ≠ "" := by decide
  refine ⟨reported, ?_⟩
  rcases dispatch_transcript Pattern.engine ["signals"] "Signal" input false surroundings with
    ⟨_, _, _, silent⟩ | ⟨registry, union, documents, loaded, found, given, handled, printed⟩
  · exact absurd (congrArg Transcript.output (reported.symm.trans silent)) spoken
  · exact ⟨registry, union, documents, loaded, found, given,
      congrArg Transcript.output (reported.symm.trans printed), handled⟩

end JsonShape
