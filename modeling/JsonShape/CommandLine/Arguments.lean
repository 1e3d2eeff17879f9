/-
This file reads the arguments of the command line. Options are understood from left
to right, and an option with its values is taken in when the next one begins: only
then is it known how many values there are. The first thing that is wrong decides
the answer; what is missing is noticed last.
-/

import JsonShape.Table

namespace JsonShape

/-! ### What can be asked for -/

/-- Where documents come from and how they are cut out. -/
structure InputSettings where
  lines : Bool
  pointer : Option String
  sources : List String
deriving DecidableEq, Repr

/-- What the program is asked to do, always on top of some definition files. -/
inductive Task where
  | check (type : String) (input : InputSettings) (emit : Bool)
  | dispatch (union : String) (input : InputSettings)
  | schema (type : String) (output : Option String)
  | list
deriving DecidableEq, Repr

/-- A task with the definition files it is about. -/
structure Request where
  definitions : List String
  task : Task
  trace : Bool
deriving DecidableEq, Repr

/-- Why no task is carried out: help or the version is asked for, or the arguments are wrong. -/
inductive UsageAnswer where
  | help
  | version
  | helpOnNothing
  | missingCommand
  | unknownCommand
  | unknownArgument
  | tooManyValues
  | repeatedOption
  | invalidValue
  | missingOption
deriving DecidableEq, Repr

/-- Whether the answer is what was asked for. -/
def UsageAnswer.isRequested : UsageAnswer → Bool
  | help => true
  | version => true
  | _ => false

/-! ### Options -/

/-- How many values an option takes, and how often it may be given. -/
inductive Arity where
  | none
  | one
  | many
deriving DecidableEq

/-- An option by its long name and its letter. The value of a path may not be empty. -/
structure OptionSpec where
  long : String
  letter : Option Char
  arity : Arity
  path : Bool

/-- The option that turns the trace on; it is known everywhere. -/
def traceOption : OptionSpec := ⟨"trace", none, .none, false⟩

/-- The definition files. -/
def definitionsOption : OptionSpec := ⟨"defs", some 'd', .many, true⟩

/-- The options that tell where documents come from. -/
def inputOptions : List OptionSpec :=
  [⟨"ndjson", none, .none, false⟩, ⟨"json-pointer", none, .one, false⟩,
    ⟨"input", some 'i', .many, false⟩]

/-- The commands. -/
inductive Command where
  | check
  | dispatch
  | schema
  | list
deriving DecidableEq

/-- The command of a word. -/
def Command.ofWord? : String → Option Command
  | "check" => some check
  | "match" => some dispatch
  | "schema" => some schema
  | "list" => some list
  | _ => none

/-- The options of a command. -/
def Command.options : Command → List OptionSpec
  | check =>
      [traceOption, definitionsOption, ⟨"type", some 't', .one, false⟩,
        ⟨"emit", none, .none, false⟩] ++ inputOptions
  | dispatch => [traceOption, definitionsOption, ⟨"union", some 'u', .one, false⟩] ++ inputOptions
  | schema =>
      [traceOption, definitionsOption, ⟨"type", some 't', .one, false⟩,
        ⟨"out", some 'o', .one, true⟩]
  | list => [traceOption, definitionsOption]

/-! ### Taking options in -/

/-- The options taken in so far with their values, and the one that still waits for values. -/
structure Gathered where
  values : Table (List String)
  waiting : Option (OptionSpec × List String)

namespace Gathered

/-- The beginning. -/
def empty : Gathered := ⟨[], none⟩

/-- Takes in an option with its values. An option with a value needs one, and only an option with
many values may be given again. -/
def take (gathered : Gathered) (option : OptionSpec) (given : List String) :
    Except UsageAnswer Gathered :=
  let before := Table.find? gathered.values option.long
  if option.arity ≠ .none ∧ given.isEmpty then .error .invalidValue
  else if option.arity ≠ .many ∧ before.isSome then .error .repeatedOption
  else if option.path ∧ given.any String.isEmpty then .error .invalidValue
  else .ok { gathered with
    values := Table.insert gathered.values option.long (before.getD [] ++ given) }

/-- Takes in the option that waits. -/
def settle (gathered : Gathered) : Except UsageAnswer Gathered :=
  match gathered.waiting with
  | none => .ok gathered
  | some (option, given) => { gathered with waiting := none }.take option given

/-- Takes in an option that is complete. -/
def complete (gathered : Gathered) (option : OptionSpec) (given : List String) :
    Except UsageAnswer Gathered := do
  (← gathered.settle).take option given

/-- Begins an option whose values follow. -/
def begin (gathered : Gathered) (option : OptionSpec) : Except UsageAnswer Gathered := do
  return { (← gathered.settle) with waiting := some (option, []) }

/-- Gives a word to the option that waits; `none` if it belongs to no option. -/
def word? (gathered : Gathered) (word : String) : Option Gathered :=
  match gathered.waiting with
  | some (option, given) =>
      if option.arity = .many ∨ given.isEmpty then
        some { gathered with waiting := some (option, given ++ [word]) }
      else none
  | none => none

end Gathered

/-! ### Reading words -/

/-- What is known at some level of the command line. -/
structure Level where
  options : List OptionSpec
  version : Bool

/-- The part before an equals sign, and the part behind it if there is one. -/
def splitValue (text : List Char) : String × Option String :=
  let name := text.takeWhile (· != '=')
  match text.drop name.length with
  | _ :: value => (String.ofList name, some (String.ofList value))
  | [] => (String.ofList name, none)

/-- A word that begins with two dashes. -/
def readLong (level : Level) (gathered : Gathered) (text : List Char) :
    Except UsageAnswer Gathered :=
  let (name, value) := splitValue text
  let answer (reply : UsageAnswer) : Except UsageAnswer Gathered :=
    if value.isSome then .error .tooManyValues
    else do
      let _ ← gathered.settle
      .error reply
  if name = "help" then answer .help
  else if name = "version" ∧ level.version then answer .version
  else match level.options.find? fun option => option.long == name with
    | none => .error .unknownArgument
    | some option =>
        match option.arity, value with
        | .none, some _ => .error .tooManyValues
        | .none, none => gathered.complete option []
        | _, some value => gathered.complete option [value]
        | _, none => gathered.begin option

/-- A word that begins with one dash: letters of options; the rest behind the letter of an option
with values is its value. -/
def readLetters (level : Level) (gathered : Gathered) : List Char → Except UsageAnswer Gathered
  | [] => .ok gathered
  | letter :: rest =>
      if letter = 'h' then do
        let _ ← gathered.settle
        .error .help
      else if letter = 'V' ∧ level.version then do
        let _ ← gathered.settle
        .error .version
      else match level.options.find? fun option => option.letter == some letter with
        | none => .error .unknownArgument
        | some option =>
            match option.arity, rest with
            | .none, rest => do
                let gathered ← gathered.complete option []
                readLetters level gathered rest
            | _, [] => gathered.begin option
            | _, '=' :: value => gathered.complete option [String.ofList value]
            | _, value => gathered.complete option [String.ofList value]

/-- The words of a command. Behind two dashes alone there are no options, and no command takes
anything else. -/
def readWords (level : Level) : Gathered → List String → Except UsageAnswer Gathered
  | gathered, [] => gathered.settle
  | gathered, word :: words =>
      match word.toList with
      | ['-', '-'] => if words.isEmpty then gathered.settle else .error .unknownArgument
      | '-' :: '-' :: text => do readWords level (← readLong level gathered text) words
      | '-' :: first :: letters => do
          readWords level (← readLetters level gathered (first :: letters)) words
      | _ =>
          match gathered.word? word with
          | some gathered => readWords level gathered words
          | none => .error .unknownArgument

/-! ### Requests -/

/-- Whether an option was given. -/
def given (values : Table (List String)) (name : String) : Bool := Table.has values name

/-- All values of an option. -/
def valuesOf (values : Table (List String)) (name : String) : List String :=
  (Table.find? values name).getD []

/-- The value of an option that may be left out. -/
def valueOf? (values : Table (List String)) (name : String) : Option String :=
  (valuesOf values name).head?

/-- The value of an option that is needed. -/
def valueOf (values : Table (List String)) (name : String) : Except UsageAnswer String :=
  match valueOf? values name with
  | some value => .ok value
  | none => .error .missingOption

/-- The settings of the input; at least one source is needed. -/
def inputOf (values : Table (List String)) : Except UsageAnswer InputSettings :=
  match valuesOf values "input" with
  | [] => .error .missingOption
  | sources => .ok ⟨given values "ndjson", valueOf? values "json-pointer", sources⟩

/-- The task of a command with the values of its options. -/
def taskOf (command : Command) (values : Table (List String)) : Except UsageAnswer Task :=
  match command with
  | .check => do
      return .check (← valueOf values "type") (← inputOf values) (given values "emit")
  | .dispatch => do return .dispatch (← valueOf values "union") (← inputOf values)
  | .schema => do return .schema (← valueOf values "type") (valueOf? values "out")
  | .list => .ok .list

/-- The words behind the word for help: at most one command, or help itself. -/
def readHelp : List String → UsageAnswer
  | [] => .help
  | [word] => if (Command.ofWord? word).isSome ∨ word = "help" then .help else .unknownCommand
  | _ => .unknownCommand

/-- The request of a command and the words behind it. -/
def requestOf (command : Command) (trace : Bool) (words : List String) :
    Except UsageAnswer Request := do
  let gathered ← readWords ⟨command.options, false⟩ .empty words
  let task ← taskOf command gathered.values
  return ⟨valuesOf gathered.values "defs", task, trace || given gathered.values "trace"⟩

/-- What is known before a command. -/
def topLevel : Level := ⟨[traceOption], true⟩

/-- The words up to the command; `gathered` holds what was given before it. -/
def readTop : Gathered → List String → Except UsageAnswer Request
  | gathered, [] => .error (if gathered.values.isEmpty then .helpOnNothing else .missingCommand)
  | gathered, word :: words =>
      match word.toList with
      | ['-', '-'] =>
          match words with
          | [] => .error (if gathered.values.isEmpty then .helpOnNothing else .missingCommand)
          | word :: _ =>
              if (Command.ofWord? word).isSome ∨ word = "help" then .error .unknownArgument
              else .error .unknownCommand
      | '-' :: '-' :: text => do readTop (← readLong topLevel gathered text) words
      | '-' :: first :: letters => do
          readTop (← readLetters topLevel gathered (first :: letters)) words
      | _ =>
          if word = "help" then .error (readHelp words)
          else match Command.ofWord? word with
            | some command => requestOf command (given gathered.values "trace") words
            | none => .error .unknownCommand

/-- The request that the arguments make. -/
def Request.ofArguments (arguments : List String) : Except UsageAnswer Request :=
  readTop .empty arguments

end JsonShape
