/-
# Requests

The arguments of a call ask for a command and say what it works on. Options stand before the
command or after it, and a double hyphen ends them. An option or an operand is taken up when the
next one begins, so that an earlier fault may come to light after a later one.
-/
import FeatureDoc.Journal
import FeatureDoc.Path.Basic
import FeatureDoc.Regex.Reader

namespace FeatureDoc

/-! ## Commands and faults -/

/-- What can be asked for. -/
inductive Verb where
  /-- Read documents and write them as JSON. -/
  | parse
  /-- Read documents and check that their scenarios are covered. -/
  | check
  /-- Write the instances of the scenarios of a document. -/
  | params
deriving DecidableEq, Repr

/-- A command with what it works on. -/
inductive Command where
  | parse (paths : List Path)
  | check (paths : List Path)
  | params (file : Path) (filter : Option Regex) (json : Bool)

/-- The paths that a command looks at. -/
def Command.paths : Command → List Path
  | parse paths | check paths => paths
  | params file _ _ => [file]

/-- What a call asks for. -/
structure Request where
  /-- The level of the notes that are shown, if it is given. -/
  level : Option Level
  command : Command

/-- Why a call asks for no command. -/
inductive UsageError where
  /-- Nothing is given at all. -/
  | nothingGiven
  /-- Options are given and no command. -/
  | noCommand
  /-- There is no such command. -/
  | unknownCommand
  /-- There is no such option, or an operand too many. -/
  | unknownArgument
  /-- A command has nothing to work on. -/
  | noOperand
  /-- An option has no value, or an operand is empty. -/
  | noValue
  /-- The value of an option cannot be read. -/
  | invalidValue
  /-- An option is given twice. -/
  | repeated
  /-- A switch has a value. -/
  | needlessValue
  /-- Help is wanted. -/
  | help
  /-- The version is wanted. -/
  | version
deriving DecidableEq, Repr

/-- A call through the program of which this is a part has the name of the part before its own
arguments. -/
def dropPartName : List Text → List Text
  | program :: name :: rest =>
    if name = "outline" then program :: rest else program :: name :: rest
  | args => args

namespace Verb

/-- The commands by their names. -/
def names : List (Text × Verb) :=
  [("parse".toList, parse), ("check".toList, check), ("params".toList, params)]

/-- The command of a name. -/
def ofName? (name : Text) : Option Verb := names.lookup name

end Verb

/-! ## Arguments -/

/-- Something that takes a value. -/
inductive Slot where
  | level
  | filter
  | file
  | paths
deriving DecidableEq, Repr

/-- What has been given for a command, or before one. -/
structure Given where
  level : Option Level := none
  filter : Option Regex := none
  json : Bool := false
  file : Option Text := none
  paths : List Text := []
  /-- What is not yet taken up, with its values. -/
  pending : Option (Slot × List Text) := none

namespace Given

/-- Takes up the value of an option, which must not have one already. -/
def setOption {α : Type} (old : Option α) (read : Text → Option α) (values : List Text) :
    Except UsageError (Option α) :=
  match values with
  | [] => .error .noValue
  | v :: _ =>
    if old.isSome then .error .repeated
    else match read v with
      | some a => .ok (some a)
      | none => .error .invalidValue

/-- Takes up values for a slot. -/
def take (g : Given) (slot : Slot) (values : List Text) : Except UsageError Given :=
  match slot with
  | .level => (setOption g.level (fun t => (Level.read t).toOption) values).map
      fun level => { g with level }
  | .filter => (setOption g.filter Regex.read? values).map fun filter => { g with filter }
  | .file =>
    if [] ∈ values then .error .noValue else .ok { g with file := values.head? }
  | .paths =>
    if [] ∈ values then .error .noValue else .ok { g with paths := g.paths ++ values }

/-- Takes up what is pending. -/
def settle (g : Given) : Except UsageError Given :=
  match g.pending with
  | none => .ok g
  | some (slot, values) => { g with pending := none }.take slot values

/-- Whether an option waits for its value. -/
def isWaiting (g : Given) : Bool :=
  match g.pending with
  | some (_, []) => true
  | _ => false

/-- Gives the waiting option its value. -/
def giveValue (g : Given) (v : Text) : Given :=
  { g with pending := g.pending.map fun (slot, values) => (slot, values ++ [v]) }

/-- Begins an option: with the value that is written with it, or waiting for one. -/
def beginOption (g : Given) (slot : Slot) (value : Option Text) : Except UsageError Given := do
  let g ← g.settle
  match value with
  | some v => g.take slot [v]
  | none => return { g with pending := some (slot, []) }

/-- Sets the switch for JSON. -/
def setJson (g : Given) : Except UsageError Given := do
  let g ← g.settle
  if g.json then throw .repeated else return { g with json := true }

/-- Stops, after taking up what is pending. -/
def stop (g : Given) (e : UsageError) : Except UsageError Given := do
  let _ ← g.settle
  throw e

/-! ## Options -/

/-- A long option as its name and the value that is written with it. -/
def cutLong (t : Text) : Text × Option Text :=
  match Text.cutAt? '=' t with
  | some (name, value) => (name, some value)
  | none => (t, none)

/-- Takes up a long option, written without its hyphens. -/
def longOption (verb : Option Verb) (g : Given) (t : Text) : Except UsageError Given :=
  let (name, value) := cutLong t
  match String.ofList name, verb, value with
  | "log-level", _, _ => g.beginOption .level value
  | "scenario", some .params, _ => g.beginOption .filter value
  | "json", some .params, none => g.setJson
  | "json", some .params, some _ => .error .needlessValue
  | "help", _, none => g.stop .help
  | "help", _, some _ => .error .needlessValue
  | "version", none, none => g.stop .version
  | "version", none, some _ => .error .needlessValue
  | _, _, _ => .error .unknownArgument

/-- Takes up short options, of which only the first is of interest. -/
def shortOptions (verb : Option Verb) (g : Given) (c : Char) : Except UsageError Given :=
  if c = 'h' then g.stop .help
  else if c = 'V' ∧ verb = none then g.stop .version
  else .error .unknownArgument

/-- What an argument is by its first characters. -/
inductive Form where
  /-- Two hyphens. -/
  | separator
  /-- Two hyphens and what follows them. -/
  | long (t : Text)
  /-- A hyphen and the character that follows it. -/
  | short (c : Char)
  | plain

/-- What an argument is by its first characters; a single hyphen is nothing special. -/
def formOf : Text → Form
  | '-' :: '-' :: [] => .separator
  | '-' :: '-' :: t => .long t
  | '-' :: c :: _ => .short c
  | _ => .plain

/-! ## Operands -/

/-- Takes up an operand of a command. -/
def operand (verb : Verb) (g : Given) (t : Text) : Except UsageError Given :=
  match verb with
  | .params =>
    match g.pending, g.file with
    | some (.file, _), _ | _, some _ => .error .unknownArgument
    | _, none => do return { ← g.settle with pending := some (.file, [t]) }
  | .parse | .check =>
    match g.pending with
    | some (.paths, _) => .ok (g.giveValue t)
    | _ => do return { ← g.settle with pending := some (.paths, [t]) }

/-- Takes up arguments after the double hyphen. -/
def operands (verb : Verb) (g : Given) : List Text → Except UsageError Given
  | [] => .ok g
  | t :: rest => do operands verb (← g.operand verb t) rest

/-- Takes up the arguments of a command. -/
def arguments (verb : Verb) (g : Given) : List Text → Except UsageError Given
  | [] => .ok g
  | t :: rest =>
    match formOf t with
    | .separator => g.operands verb rest
    | .long t => do arguments verb (← g.longOption (some verb) t) rest
    | .short c => do arguments verb (← g.shortOptions (some verb) c) rest
    | .plain =>
      if g.isWaiting then arguments verb (g.giveValue t) rest
      else do arguments verb (← g.operand verb t) rest

/-- The command for which all arguments have been given. -/
def command (verb : Verb) (g : Given) : Except UsageError Command :=
  match verb with
  | .parse => if g.paths = [] then .error .noOperand else .ok (.parse (g.paths.map Utf8.encode))
  | .check => if g.paths = [] then .error .noOperand else .ok (.check (g.paths.map Utf8.encode))
  | .params =>
    match g.file with
    | none => .error .noOperand
    | some file => .ok (.params file g.filter g.json)

end Given

/-! ## Requests -/

namespace Request

/-- The request for a command with its arguments, after the options before it. A level that
follows the command counts more than one before it. -/
def ofCommand (before : Given) (verb : Verb) (args : List Text) : Except UsageError Request := do
  let given ← Given.arguments verb {} args
  let given ← given.settle
  let command ← given.command verb
  let before ← before.settle
  return { level := given.level.or before.level, command }

/-- The name of the command that shows help. -/
def helpName : Text := "help"

/-- What asking for help on a list of names comes to: only commands have help, and there is
nothing below them. -/
def helpError : List Text → UsageError
  | [] => .help
  | [name] => if (Verb.ofName? name).isSome ∨ name = helpName then .help else .unknownCommand
  | _ :: _ :: _ => .unknownCommand

/-- Why arguments after a double hyphen and without a command ask for nothing. -/
def separatedError (g : Given) : List Text → Except UsageError Request
  | [] => finish g
  | name :: _ =>
    if (Verb.ofName? name).isSome ∨ name = helpName then .error .unknownArgument
    else .error .unknownCommand
where
  /-- Why options without a command ask for nothing. -/
  finish (g : Given) : Except UsageError Request := do
    let g ← g.settle
    throw (if g.level.isSome then .noCommand else .nothingGiven)

/-- The request that arguments make after the given ones. -/
def ofArguments (g : Given) : List Text → Except UsageError Request
  | [] => separatedError g []
  | t :: rest =>
    if g.isWaiting ∧ (Given.formOf t matches .plain) then ofArguments (g.giveValue t) rest
    else match Verb.ofName? t with
      | some verb => ofCommand g verb rest
      | none =>
        if t = helpName then .error (helpError rest)
        else match Given.formOf t with
          | .separator => separatedError g rest
          | .long t => do ofArguments (← g.longOption none t) rest
          | .short c => do ofArguments (← g.shortOptions none c) rest
          | .plain => .error .unknownCommand

/-- The request that the arguments of a call make; the first argument is the name of the
program. -/
def read (args : List Text) : Except UsageError Request :=
  ofArguments {} ((dropPartName args).drop 1)

end Request

end FeatureDoc
