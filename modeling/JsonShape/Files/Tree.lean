/-
This file holds trees of files and directories as values. A path is followed from
the root if it begins with a slash, and otherwise from the working directory; it is
followed step by step, so that a file in the middle of a path, or a slash behind a
file, is noticed. Entries of a directory are kept in the order of their names.
-/

import JsonShape.Text.Pieces

namespace JsonShape

/-- A file with its bytes, or a directory with its entries in the order of their names. -/
inductive FileNode where
  | file (content : ByteArray)
  | directory (entries : List (String × FileNode))

/-- What can be wrong with a path or with what it leads to. -/
inductive FileFault where
  | missing
  | alreadyThere
  | notDirectory
  | isDirectory
  | notText
deriving DecidableEq

/-- The wording of a fault, with the number under which the system reports it. -/
def FileFault.message : FileFault → String
  | missing => "No such file or directory (os error 2)"
  | alreadyThere => "File exists (os error 17)"
  | notDirectory => "Not a directory (os error 20)"
  | isDirectory => "Is a directory (os error 21)"
  | notText => "stream did not contain valid UTF-8"

/-! ### Paths -/

/-- The steps of a path; repeated slashes count as one. -/
def stepsOf (path : String) : List String :=
  ((pieces '/' path.toList).filter fun step => !step.isEmpty).map String.ofList

/-- Whether a path begins at the root. -/
def isAbsolute (path : String) : Bool := path.toList.head? == some '/'

/-- Whether a path ends in a slash, so that it has to lead to a directory. -/
def endsInSlash (path : String) : Bool := path.toList.getLast? == some '/'

/-- Whether a path is another way to write the working directory. -/
def isHere (path : String) : Bool :=
  let steps := stepsOf path
  !isAbsolute path && !steps.isEmpty && steps.all (· == ".")

/-- A path one step farther. -/
def joinPath (path step : String) : String :=
  if path.isEmpty || isAbsolute step then step
  else if endsInSlash path then path ++ step else path ++ "/" ++ step

/-! ### Nodes -/

namespace FileNode

/-- Whether the node is a directory. -/
def isDirectory : FileNode → Bool
  | file _ => false
  | directory _ => true

/-- The entry of that name. -/
def child? : List (String × FileNode) → String → Option FileNode
  | [], _ => none
  | (name, node) :: rest, key => if name = key then some node else child? rest key

/-- Puts an entry into its place among the others, instead of one of the same name. -/
def putEntry : List (String × FileNode) → String → FileNode → List (String × FileNode)
  | [], key, node => [(key, node)]
  | (name, old) :: rest, key, node =>
      if name = key then (name, node) :: rest
      else if key < name then (key, node) :: (name, old) :: rest
      else (name, old) :: putEntry rest key node

/-- Puts a node at the end of a way through a tree. Directories are made where they are missing;
a file on the way stops it. -/
def put (node : FileNode) : List String → FileNode → FileNode
  | [], added => added
  | step :: steps, added =>
      match node with
      | file content => file content
      | directory entries =>
          let inner := (child? entries step).getD (directory [])
          directory (putEntry entries step (inner.put steps added))

end FileNode

/-! ### Systems -/

/-- A tree and the way from its root to the working directory. -/
structure FileSystem where
  root : FileNode
  working : List String

namespace FileSystem

/-- A place in a tree: the node, the step that led to it, and the places above it. -/
structure Place where
  node : FileNode
  above : List (String × FileNode)

/-- One step onwards from a place. The names on the way are kept last first. -/
def Place.step (names : List String) (place : Place) (step : String) :
    Except FileFault (List String × Place) :=
  match place.node with
  | .file _ => .error .notDirectory
  | .directory entries =>
      if step = "." then .ok (names, place)
      else if step = ".." then
        match place.above, names with
        | (_, node) :: above, _ :: names => .ok (names, ⟨node, above⟩)
        | _, _ => .ok (names, place)
      else match FileNode.child? entries step with
        | some node => .ok (step :: names, ⟨node, (step, place.node) :: place.above⟩)
        | none => .error .missing

/-- Several steps onwards from a place. -/
def Place.follow : List String → Place → List String → Except FileFault (List String × Place)
  | names, place, [] => .ok (names, place)
  | names, place, step :: steps =>
      match place.step names step with
      | .ok (names, place) => place.follow names steps
      | .error fault => .error fault

/-- What a path leads to, and the way to it from the root, last step first. -/
def walk (system : FileSystem) (path : String) : Except FileFault (List String × FileNode) :=
  if path.isEmpty then .error .missing
  else
    let start := if isAbsolute path then [] else system.working
    match Place.follow [] ⟨system.root, []⟩ (start ++ stepsOf path) with
    | .error fault => .error fault
    | .ok (names, place) =>
        if endsInSlash path && !place.node.isDirectory then .error .notDirectory
        else .ok (names, place.node)

/-- What a path leads to. -/
def locate (system : FileSystem) (path : String) : Except FileFault FileNode :=
  (system.walk path).map Prod.snd

/-- Whether a path leads to a directory. -/
def isDirectory (system : FileSystem) (path : String) : Bool :=
  match system.locate path with
  | .ok node => node.isDirectory
  | .error _ => false

/-- The text of the file that a path leads to. -/
def readText (system : FileSystem) (path : String) : Except FileFault String :=
  match system.locate path with
  | .error fault => .error fault
  | .ok (.directory _) => .error .isDirectory
  | .ok (.file content) =>
      match String.fromUTF8? content with
      | some text => .ok text
      | none => .error .notText

/-! ### Changes -/

/-- A path without its last step, and that step; the root has neither. A point at the end of a path
is no step. -/
def splitPath? (path : String) : Option (String × String) :=
  let steps := stepsOf path
  let steps := match steps with
    | [] => []
    | first :: rest =>
        if isAbsolute path then (first :: rest).filter (· != ".")
        else first :: rest.filter (· != ".")
  match steps.reverse with
  | [] => none
  | last :: before =>
      let parent := "/".intercalate before.reverse
      some (if isAbsolute path then "/" ++ parent else parent, last)

/-- Makes a new directory. -/
def makeDirectory (system : FileSystem) (path : String) : Except FileFault FileSystem :=
  match system.locate path with
  | .ok _ => .error .alreadyThere
  | .error .missing =>
      match splitPath? path with
      | none => .error .missing
      | some (parent, name) =>
          match system.walk (if parent.isEmpty then "." else parent) with
          | .error fault => .error fault
          | .ok (names, node) =>
              if node.isDirectory && name != ".." then
                .ok { system with
                  root := system.root.put (names.reverse ++ [name]) (.directory []) }
              else .error .missing
  | .error fault => .error fault

/-- Makes a directory with all directories on the way to it. An existing directory is left as it
is; `steps` limits how far the way is followed back. -/
def makeDirectories : Nat → FileSystem → String → Except FileFault FileSystem
  | 0, system, _ => .ok system
  | steps + 1, system, path =>
      if path.isEmpty then .ok system
      else match system.makeDirectory path with
        | .ok system => .ok system
        | .error .missing =>
            match splitPath? path with
            | none => .ok system
            | some (parent, _) =>
                match makeDirectories steps system parent with
                | .error fault => .error fault
                | .ok system =>
                    match system.makeDirectory path with
                    | .ok system => .ok system
                    | .error fault =>
                        if system.isDirectory path then .ok system else .error fault
        | .error fault => if system.isDirectory path then .ok system else .error fault

/-- Writes a file, new or in the place of an old one. -/
def writeText (system : FileSystem) (path : String) (text : String) :
    Except FileFault FileSystem :=
  let content := FileNode.file text.toUTF8
  if endsInSlash path then .error .isDirectory
  else match system.walk path with
    | .ok (_, .directory _) => .error .isDirectory
    | .ok (names, .file _) => .ok { system with root := system.root.put names.reverse content }
    | .error .missing =>
        match splitPath? path with
        | none => .error .missing
        | some (parent, name) =>
            match system.walk (if parent.isEmpty then "." else parent) with
            | .error fault => .error fault
            | .ok (names, _) =>
                if (stepsOf path).getLast? = some "." then .error .missing
                else .ok { system with root := system.root.put (names.reverse ++ [name]) content }
    | .error fault => .error fault

end FileSystem

end JsonShape
