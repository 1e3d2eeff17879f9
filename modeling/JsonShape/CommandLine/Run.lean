/-
This file carries out requests. A run is a function from a request and the
surroundings, a tree of files and the standard input, to a report: the lines of the
two outputs, success or failure, and the tree afterwards. Definitions and documents
are loaded completely before the first of them is reported on, so an error in any of
them leaves both outputs empty.
-/

import JsonShape.CommandLine.Arguments
import JsonShape.CommandLine.Documents
import JsonShape.Descriptor.Display
import JsonShape.Files.Glob
import JsonShape.Registry

namespace JsonShape

/-! ### Surroundings, errors and reports -/

/-- What a run finds: files, and the standard input, which can be read once. -/
structure Surroundings where
  files : FileSystem
  input : ByteArray

/-- Why a run stops. -/
inductive RunError where
  | definitionsUnreadable (path : String) (fault : FileFault)
  | definitionsInvalid (path : String) (error : DefinitionError)
  | unknownType (name : String)
  | notUnion (name : String)
  | badGlob (fault : GlobFault)
  | globFoundNothing (pattern : String)
  | inputUnreadable (fault : FileFault)
  | sourceUnreadable (origin : String) (fault : FileFault)
  | document (error : DocumentError)
  | directoryNotMade (fault : FileFault)
  | notWritten (path : String) (fault : FileFault)

/-- The wording of the error. -/
def RunError.message : RunError → String
  | definitionsUnreadable path fault =>
      "failed to read definitions (" ++ path ++ "): " ++ fault.message
  | definitionsInvalid path error =>
      "failed to load definitions (" ++ path ++ "): " ++ error.message
  | unknownType name => "unknown type " ++ ticked name
  | notUnion name => ticked name ++ " is not a registered union"
  | badGlob fault => fault.message
  | globFoundNothing pattern => "glob pattern matched no files: " ++ pattern
  | inputUnreadable fault => "failed to read stdin: " ++ fault.message
  | sourceUnreadable origin fault =>
      "failed to read source file (" ++ origin ++ "): " ++ fault.message
  | document error => error.message
  | directoryNotMade fault => fault.message
  | notWritten path fault => "failed to write " ++ path ++ ": " ++ fault.message

/-- What a run leaves: the lines on the two outputs, whether all went well, and the files. -/
structure Report where
  output : List String
  messages : List String
  passed : Bool
  files : FileSystem

/-! ### Definitions -/

variable (engine : PatternEngine)

/-- Loads definition files one after the other. -/
def loadDefinitions (files : FileSystem) :
    List String → Registry → Supply → Except RunError Registry
  | [], registry, _ => .ok registry
  | path :: paths, registry, supply =>
      match files.readText path with
      | .error fault => .error (.definitionsUnreadable path fault)
      | .ok text =>
          match registry.loadText engine text supply with
          | .error error => .error (.definitionsInvalid path error)
          | .ok loaded => loadDefinitions files paths loaded.registry loaded.supply

/-- The standard registry with the definition files on top. -/
def registryOf (files : FileSystem) (paths : List String) : Except RunError Registry :=
  loadDefinitions engine files paths .standard .full

/-! ### Documents -/

/-- Whether a source is written as a pattern of file names. -/
def isGlob (source : String) : Bool :=
  source.toList.any fun character =>
    character == '*' || character == '?' || character == '[' || character == '\x7b'

/-- The paths of a source: those that a pattern finds, or the source itself. -/
def pathsOf (files : FileSystem) (source : String) : Except RunError (List String) :=
  if isGlob source then
    match Glob.read source with
    | .error fault => .error (.badGlob fault)
    | .ok glob =>
        match glob.find files with
        | [] => .error (.globFoundNothing source)
        | paths => .ok paths
  else .ok [source]

/-- The paths of all sources. -/
def pathsOfAll (files : FileSystem) : List String → Except RunError (List String)
  | [] => .ok []
  | source :: sources => do
      let paths ← pathsOf files source
      let others ← pathsOfAll files sources
      return paths ++ others

/-- The path that stands for the standard input. -/
def inputPath : String := "-"

/-- The name under which documents of the standard input are reported. -/
def inputOrigin : String := "<stdin>"

/-- The text of the standard input. -/
def inputText (input : ByteArray) : Except RunError String :=
  match String.fromUTF8? input with
  | some text => .ok text
  | none => .error (.inputUnreadable .notText)

/-- The origin and the text of a path. -/
def sourceOf (surroundings : Surroundings) (path : String) : Except RunError (String × String) :=
  if path = inputPath then do return (inputOrigin, ← inputText surroundings.input)
  else match surroundings.files.readText path with
    | .ok text => .ok (path, text)
    | .error fault => .error (.sourceUnreadable path fault)

/-- The surroundings after a path was read: the standard input is used up. -/
def Surroundings.after (surroundings : Surroundings) (path : String) : Surroundings :=
  if path = inputPath then { surroundings with input := .empty } else surroundings

/-- The selected documents of a source. -/
def selectedDocuments (settings : InputSettings) (origin text : String) :
    Except DocumentError (List Document) := do
  let documents ← documentsOf origin text settings.lines
  documents.mapM (Document.select settings.pointer)

/-- The documents of a path. -/
def documentsOfPath (settings : InputSettings) (surroundings : Surroundings) (path : String) :
    Except RunError (List Document) := do
  let (origin, text) ← sourceOf surroundings path
  (selectedDocuments settings origin text).mapError .document

/-- The documents of the paths, one after the other. -/
def documentsOfPaths (settings : InputSettings) :
    Surroundings → List String → Except RunError (List Document)
  | _, [] => .ok []
  | surroundings, path :: paths => do
      let documents ← documentsOfPath settings surroundings path
      let others ← documentsOfPaths settings (surroundings.after path) paths
      return documents ++ others

/-- All documents that the settings name. -/
def loadDocuments (settings : InputSettings) (surroundings : Surroundings) :
    Except RunError (List Document) := do
  let paths ← pathsOfAll surroundings.files settings.sources
  documentsOfPaths settings surroundings paths

/-! ### Checking and dispatching -/

/-- The lines that the report on one document adds to the two outputs, and whether it passed. -/
structure Verdict where
  output : List String
  messages : List String
  passed : Bool

/-- The line of a document that did not pass. -/
def failedLine (origin reason : String) : String := "❌ " ++ origin ++ ": " ++ reason

/-- The line of a document that passed. -/
def passedLine (origin : String) : String := "✅ " ++ origin

/-- How many documents did not pass. -/
def failures (verdicts : List Verdict) : Nat := verdicts.countP fun verdict => !verdict.passed

/-- The last line of a report on so many documents, of which so many did not pass. -/
def summaryLine (total failed : Nat) : String :=
  toString (total - failed) ++ " of " ++ toString total ++ " documents passed"

/-- The lines of a trace, if they are asked for. -/
def traceLines (trace : Bool) (lines : List TraceLine) : List String :=
  if trace then lines.map TraceLine.text else []

/-- Constructs a document as a type; a constructed value is written out on demand. -/
def checkDocument (type : Descriptor) (emit trace : Bool) (document : Document) : Verdict :=
  let built := type.construct document.value
  let traced := traceLines trace built.lines
  match built.outcome with
  | .ok made =>
      ⟨if emit then [made.value.text] else [], traced ++ [passedLine document.origin], true⟩
  | .error rejection =>
      ⟨[], traced ++ [failedLine document.origin rejection.message], false⟩

/-- The handlers that answer with the name of their variant. -/
def namingHandlers (union : Union) : Table (Json → String) :=
  union.variantNames.foldl (fun table name => Table.insert table name fun _ => name) []

/-- Dispatches a document through a union and names the variant. -/
def dispatchDocument (union : Union) (document : Document) : Verdict :=
  match union.case (.raw document.value) (namingHandlers union) with
  | .ok variant => ⟨[document.origin ++ "\t" ++ variant], [], true⟩
  | .error error => ⟨[], [failedLine document.origin error.message], false⟩

/-- The report on documents: their lines in order, and a summary. -/
def reportOn (files : FileSystem) (verdicts : List Verdict) : Report where
  output := verdicts.flatMap Verdict.output
  messages :=
    verdicts.flatMap Verdict.messages ++ [summaryLine verdicts.length (failures verdicts)]
  passed := failures verdicts == 0
  files := files

/-- The type of that name in a registry. -/
def namedType (registry : Registry) (name : String) : Except RunError Descriptor :=
  match registry.type? name with
  | some type => .ok type
  | none => .error (.unknownType name)

/-- The union of that name in a registry. -/
def namedUnion (registry : Registry) (name : String) : Except RunError Union :=
  match registry.union? name with
  | some union => .ok union
  | none => .error (.notUnion name)

/-! ### Schemas and lists -/

/-- Writes a schema to a file; the directories on the way are made. -/
def writeSchema (files : FileSystem) (path text : String) : Except RunError FileSystem := do
  let files ← match FileSystem.splitPath? path with
    | none => Except.ok files
    | some (parent, _) =>
        match FileSystem.makeDirectories (stepsOf path).length files parent with
        | .ok files => Except.ok files
        | .error fault => Except.error (RunError.directoryNotMade fault)
  match files.writeText path text with
  | .ok files => .ok files
  | .error fault => .error (.notWritten path fault)

/-- The line of an entry of a registry: what it is, and how it is shown. -/
def listLine : Entry → String
  | .type content => "type   " ++ content.display
  | .union content => "union  " ++ content.display

/-! ### Runs -/

/-- Carries out a task with a registry. -/
def runTask (registry : Registry) (trace : Bool) (surroundings : Surroundings) :
    Task → Except RunError Report
  | .check name input emit => do
      let type ← namedType registry name
      let documents ← loadDocuments input surroundings
      return reportOn surroundings.files (documents.map (checkDocument type emit trace))
  | .dispatch name input => do
      let union ← namedUnion registry name
      let documents ← loadDocuments input surroundings
      return reportOn surroundings.files (documents.map (dispatchDocument union))
  | .schema name path => do
      let type ← namedType registry name
      let text := type.schema.indentedText
      match path with
      | none => return ⟨[text], [], true, surroundings.files⟩
      | some path => return ⟨[], [], true, ← writeSchema surroundings.files path text⟩
  | .list =>
      .ok ⟨registry.entries.map fun entry => listLine entry.2, [], true, surroundings.files⟩

/-- Carries out a request. -/
def Request.run (request : Request) (surroundings : Surroundings) : Except RunError Report := do
  let registry ← registryOf engine surroundings.files request.definitions
  runTask registry request.trace surroundings request.task

/-! ### What is printed -/

/-- Lines as they are printed, each with its end. -/
def printed (lines : List String) : String := String.join (lines.map fun line => line ++ "\n")

/-- What a run prints on the two outputs, and whether it is a success. -/
structure Transcript where
  output : String
  messages : String
  passed : Bool
deriving DecidableEq, Repr

/-- A report is printed as it is. An error is the only thing that is printed when a run stops. -/
def transcriptOf : Except RunError Report → Transcript
  | .ok report => ⟨printed report.output, printed report.messages, report.passed⟩
  | .error error => ⟨printed [], printed ["error: " ++ error.message], false⟩

end JsonShape
