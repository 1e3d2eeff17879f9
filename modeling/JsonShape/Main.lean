/-
This file is the program: it takes the arguments, looks up what they name in the
files around it, carries out the request on that picture, and prints the report. Only
what the request names is read; below a pattern of file names that is everything in
the directory it starts from.
-/

import JsonShape.CommandLine.Run
import JsonShape.CommandLine.Switch
import JsonShape.CommandLine.Usage
import JsonShape.Pattern.Basic

namespace JsonShape

/-! ### The picture of the files -/

/-- The node at a path; the entries of a directory are taken along on demand. -/
partial def pictureOf (path : String) (deep : Bool) : IO FileNode := do
  let place := (← IO.currentDir) / path
  if ← place.isDir then
    let mut entries : List (String × FileNode) := []
    if deep then
      for entry in ← place.readDir do
        let node ← pictureOf entry.path.toString true
        entries := FileNode.putEntry entries entry.fileName node
    return .directory entries
  else return .file (← IO.FS.readBinFile place)

/-- Adds what a path leads to, and the directories on the way. -/
def addPath (deep : Bool) (files : FileSystem) (path : String) : IO FileSystem := do
  let mut files := files
  let mut walked : List String := if isAbsolute path then [] else files.working
  let steps := stepsOf path
  for index in List.range steps.length do
    let step := steps.getD index ""
    if step == ".." then walked := walked.dropLast
    else if step != "." then walked := walked ++ [step]
    let whole := "/" ++ "/".intercalate walked
    let place := (← IO.currentDir) / whole
    if ← place.pathExists then
      let last := index + 1 == steps.length
      let node ← pictureOf whole (deep && last)
      if last || (files.locate whole).toOption.isNone then
        files := { files with root := files.root.put walked node }
  return files

/-- The part of a pattern of file names in front of its first step with signs. -/
def startOfGlob (source : String) : String :=
  let plain := (stepsOf source).takeWhile fun step => !isGlob step
  (if isAbsolute source then "/" else "./") ++ "/".intercalate plain

/-- The sources of a task. -/
def Task.sources : Task → List String
  | .check _ input _ => input.sources
  | .dispatch _ input => input.sources
  | _ => []

/-- A picture of the files that a request names. -/
def pictureFor (request : Request) : IO FileSystem := do
  let working := stepsOf (← IO.currentDir).toString
  let mut files : FileSystem := ⟨FileNode.put (.directory []) working (.directory []), working⟩
  for path in request.definitions do
    files ← addPath false files path
  for source in request.task.sources do
    if isGlob source then files ← addPath true files (startOfGlob source)
    else files ← addPath false files source
  match request.task with
  | .schema _ (some path) => addPath false files path
  | _ => return files

/-! ### Input and output -/

/-- Everything that is left of a stream. -/
partial def readAll (stream : IO.FS.Stream) (before : ByteArray) : IO ByteArray := do
  let next ← stream.read 65536
  if next.isEmpty then return before else readAll stream (before ++ next)

/-- The standard input, if the request reads it. -/
def inputFor (request : Request) : IO ByteArray := do
  if request.task.sources.contains inputPath then readAll (← IO.getStdin) .empty
  else return .empty

/-- Writes the file that the task asks for. -/
def writeResult (task : Task) (files : FileSystem) : IO Unit := do
  match task with
  | .schema _ (some path) =>
      match files.readText path, FileSystem.splitPath? path with
      | .ok text, some (parent, _) =>
          if !parent.isEmpty then IO.FS.createDirAll parent
          IO.FS.writeFile path text
      | _, _ => return
  | _ => return

/-- Carries out a request, prints what it leaves and gives the exit code. -/
def perform (request : Request) : IO UInt32 := do
  let ended := request.run Pattern.engine ⟨← pictureFor request, ← inputFor request⟩
  let transcript := transcriptOf ended
  IO.print transcript.output
  IO.eprint transcript.messages
  match ended with
  | .ok report => writeResult request.task report.files
  | .error _ => pure ()
  return if transcript.passed then 0 else 1

end JsonShape

open JsonShape in
/-- The program. -/
def main (arguments : List String) : IO UInt32 := do
  match Request.ofArguments arguments with
  | .error answer =>
      if answer.isRequested then
        IO.println answer.message
        return 0
      else
        IO.eprintln answer.message
        return 2
  | .ok request =>
      let setting ← IO.getEnv traceSetting
      perform { request with trace := request.trace || traceEnabled setting }
