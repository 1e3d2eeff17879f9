/-
This file expands patterns of file names. In a step of a pattern `*` stands for any
text, `?` for one character and brackets for one character of a set; a step `**`
stands for any number of directories. Matches come in the order of their names, a
directory before what is in it. A step without signs is looked up directly, so that
`.` and `..` can be written; otherwise only a step that begins with a point finds
them.
-/

import JsonShape.Files.Tree

namespace JsonShape

/-! ### Steps of a pattern -/

/-- One sign of a pattern; `anySteps` is the sign that only a whole step may consist of. -/
inductive GlobToken where
  | letter (character : Char)
  | any
  | anyText
  | anySteps
  | oneOf (negated : Bool) (ranges : List (Char × Char))
deriving DecidableEq

/-- One step of a pattern: directories to any depth, or a name. -/
inductive GlobStep where
  | recursive
  | name (tokens : List GlobToken)
deriving DecidableEq

/-- What can be wrong with a pattern, and at which character. -/
inductive GlobFault where
  | tooManyStars (position : Nat)
  | recursiveInName (position : Nat)
  | invalidRange (position : Nat)
deriving DecidableEq

/-- The wording of a fault. -/
def GlobFault.message (fault : GlobFault) : String :=
  let (position, reason) := match fault with
    | tooManyStars position =>
        (position, "wildcards are either regular `*` or recursive `**`")
    | recursiveInName position =>
        (position, "recursive wildcards must form a single path component")
    | invalidRange position => (position, "invalid range pattern")
  "Pattern syntax error near position " ++ toString position ++ ": " ++ reason

/-! ### Reading patterns -/

/-- The ranges of a set: a dash between two characters makes a range of them. -/
def globRanges : List Char → List (Char × Char)
  | low :: '-' :: high :: rest => (low, high) :: globRanges rest
  | character :: rest => (character, character) :: globRanges rest
  | [] => []

/-- Splits a text in front of the first closing bracket, which may not be its first character. -/
def untilBracket? : List Char → Option (List Char × List Char)
  | [] => none
  | first :: rest =>
      let inside := rest.takeWhile (· != ']')
      match rest.drop inside.length with
      | ']' :: after => some (first :: inside, after)
      | _ => none

/-- The set behind an opening bracket and what follows it. -/
def readGlobSet? (text : List Char) : Option (GlobToken × List Char) :=
  let (negated, inside) := match text with
    | '!' :: rest => (true, rest)
    | rest => (false, rest)
  (untilBracket? inside).map fun parts => (.oneOf negated (globRanges parts.1), parts.2)

/-- The tokens of a pattern from a position on, with the character before it; `limit` bounds their
number. -/
def readGlobTokens : Nat → Nat → Option Char → List Char → Except GlobFault (List GlobToken)
  | 0, _, _, _ => .ok []
  | _, _, _, [] => .ok []
  | limit + 1, position, before, '*' :: rest =>
      let stars := (rest.takeWhile (· == '*')).length + 1
      let after := rest.drop (stars - 1)
      if 2 < stars then .error (.tooManyStars (position + 2))
      else if stars = 1 then do
        return .anyText :: (← readGlobTokens limit (position + 1) (some '*') after)
      else if before.isNone || before == some '/' then
        match after with
        | [] => .ok [.anySteps]
        | '/' :: after => do
            return .anySteps :: (← readGlobTokens limit (position + 3) (some '/') after)
        | _ => .error (.recursiveInName (position + 2))
      else .error (.recursiveInName (position - 1))
  | limit + 1, position, _, '?' :: rest => do
      return .any :: (← readGlobTokens limit (position + 1) (some '?') rest)
  | limit + 1, position, _, '[' :: rest =>
      match readGlobSet? rest with
      | none => .error (.invalidRange position)
      | some (characters, after) => do
          let taken := rest.length - after.length + 1
          return characters :: (← readGlobTokens limit (position + taken) (some ']') after)
  | limit + 1, position, _, character :: rest => do
      return .letter character :: (← readGlobTokens limit (position + 1) (some character) rest)

/-- One step of a pattern. -/
def GlobStep.read (step : List Char) : Except GlobFault GlobStep := do
  let tokens ← readGlobTokens step.length 0 none step
  if tokens.contains .anySteps then return .recursive else return .name tokens

/-- A pattern: its steps, whether it begins at the root, and whether it asks for directories. -/
structure Glob where
  steps : List GlobStep
  absolute : Bool
  directories : Bool

/-- Leaves out a step to any depth that another one follows. -/
def mergeRecursive : List GlobStep → List GlobStep
  | [] => []
  | step :: rest =>
      if step = .recursive ∧ rest.head? = some .recursive then mergeRecursive rest
      else step :: mergeRecursive rest

/-- A pattern from its text. The whole text is read first, so that a fault in it is placed in the
whole, and then each step by itself. -/
def Glob.read (text : String) : Except GlobFault Glob := do
  let characters := text.toList
  let _ ← readGlobTokens characters.length 0 none characters
  let absolute := isAbsolute text
  let written := pieces '/' (if absolute then characters.drop 1 else characters)
  let written := if written.getLast? = some [] then written.dropLast else written
  let steps ← written.mapM GlobStep.read
  return ⟨mergeRecursive steps, absolute, endsInSlash text⟩

/-! ### Matching names -/

/-- Whether one token stands for the character. -/
def GlobToken.holds (token : GlobToken) (character : Char) : Bool :=
  match token with
  | letter expected => character == expected
  | any => true
  | anyText => true
  | anySteps => true
  | oneOf negated ranges =>
      negated != ranges.any fun range => range.1 ≤ character && character ≤ range.2

/-- Whether the rest of a name is matched from some place on. -/
def someSuffix (test : List Char → Bool) : List Char → Bool
  | [] => test []
  | character :: rest => test (character :: rest) || someSuffix test rest

/-- Whether the tokens match the whole name. -/
def matchesName : List GlobToken → List Char → Bool
  | [], name => name.isEmpty
  | .anyText :: tokens, name => someSuffix (matchesName tokens) name
  | _ :: _, [] => false
  | token :: tokens, character :: rest => token.holds character && matchesName tokens rest

/-- The name that the tokens spell, if they hold no signs. -/
def plainName? : List GlobToken → Option (List Char)
  | [] => some []
  | .letter character :: tokens => (plainName? tokens).map (character :: ·)
  | _ => none

/-! ### Expanding patterns -/

/-- A node under the path that leads to it. -/
structure FoundNode where
  path : String
  node : FileNode

/-- The path of an entry of a directory; the working directory is not written. -/
def entryPath (path name : String) : String := if isHere path then name else joinPath path name

/-- The entries of a directory under their paths. -/
def entriesOf (found : FoundNode) : List (String × FoundNode) :=
  match found.node with
  | .directory entries =>
      entries.map fun entry => (entry.1, ⟨entryPath found.path entry.1, entry.2⟩)
  | .file _ => []

mutual

/-- What a node yields by itself, and what the nodes below it yield. -/
def descend {Yield : Type} (own : String → FoundNode → List Yield) (name path : String) :
    FileNode → List Yield
  | .file content => own name ⟨path, .file content⟩
  | .directory entries =>
      own name ⟨path, .directory entries⟩ ++ descendAll own path entries

/-- What the entries of a directory yield, and what the nodes below them yield. -/
def descendAll {Yield : Type} (own : String → FoundNode → List Yield) (path : String) :
    List (String × FileNode) → List Yield
  | [] => []
  | (name, node) :: rest =>
      descend own name (entryPath path name) node ++ descendAll own path rest

end

/-- The special names that a step with signs finds if it begins with a point. -/
def specialNames (tokens : List GlobToken) : List String :=
  if tokens.head? = some (.letter '.') then
    ["..", "."].filter fun name => matchesName tokens name.toList
  else []

mutual

/-- The paths that the steps find from a place on. -/
def findFrom (system : FileSystem) (directories : Bool) :
    List GlobStep → FoundNode → List String
  | [], found => if directories && !found.node.isDirectory then [] else [found.path]
  | .recursive :: rest, found =>
      match found.node with
      | .file _ => []
      | .directory entries =>
          descendAll (fun name inner => findBelow system directories rest name inner) found.path
            entries
  | .name tokens :: rest, found =>
      let visit (path : String) : List String :=
        match system.locate path with
        | .ok node => findFrom system directories rest ⟨path, node⟩
        | .error _ => []
      match plainName? tokens with
      | some name =>
          let name := String.ofList name
          if (name = "." ∨ name = "..") ∧ !found.node.isDirectory then []
          else visit (entryPath found.path name)
      | none =>
          match found.node with
          | .file _ => []
          | .directory _ =>
              (specialNames tokens).flatMap (fun name => visit (joinPath found.path name)) ++
                (entriesOf found).flatMap fun entry =>
                  if matchesName tokens entry.1.toList then
                    findFrom system directories rest entry.2
                  else []

/-- The paths that the steps behind a step to any depth find at a node by its own name. -/
def findBelow (system : FileSystem) (directories : Bool) :
    List GlobStep → String → FoundNode → List String
  | [], _, found => if found.node.isDirectory then [found.path] else []
  | .recursive :: _, _, _ => []
  | .name tokens :: rest, name, found =>
      if matchesName tokens name.toList then findFrom system directories rest found else []

end

/-- The paths that a pattern finds. -/
def Glob.find (glob : Glob) (system : FileSystem) : List String :=
  let start := if glob.absolute then "/" else "."
  match system.locate start with
  | .error _ => []
  | .ok node =>
      if glob.steps.isEmpty then [start]
      else findFrom system glob.directories glob.steps ⟨start, node⟩

end JsonShape
