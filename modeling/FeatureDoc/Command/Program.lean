/-
# The program

A call of the program has arguments and perhaps a level in its environment. It runs a command,
shows what has been made known, and ends with a number that says how it went.
-/
import FeatureDoc.Command.Basic
import FeatureDoc.Journal.Line

namespace FeatureDoc

/-- Why a call runs no command. -/
inductive Refusal where
  /-- Its arguments ask for none. -/
  | usage (e : UsageError)
  /-- Its environment names a level that does not exist. -/
  | configuration (e : Level.Unknown)
deriving DecidableEq

/-- What a call runs. -/
structure Call where
  /-- The level of the notes that are shown. -/
  level : Level
  command : Command

/-- What a call leaves behind. -/
structure Ending where
  /-- The number with which it ends. -/
  exit : Nat
  /-- What it has written. -/
  written : Text
  /-- The lines that it has shown. -/
  shown : List Text

/-- The name of the environment variable that holds a level. -/
def levelVariable : String := "BDD_OUTLINE_LOG_LEVEL"

/-- The level if nothing else is said. -/
def Level.standard : Level := .warn

namespace Call

/-- The level that the environment asks for. -/
def environmentLevel (environment : Option Text) : Except Level.Unknown Level :=
  match environment with
  | none => .ok .standard
  | some t => Level.read t

/-- What a call with the given arguments runs; the first argument is the name of the program. The
level in the environment must exist even if the arguments give another one. -/
def read (args : List Text) (environment : Option Text) : Except Refusal Call :=
  match Request.read args with
  | .error e => .error (.usage e)
  | .ok request =>
    match environmentLevel environment with
    | .error e => .error (.configuration e)
    | .ok level => .ok { level := request.level.getD level, command := request.command }

/-! ## Endings -/

/-- The number of a call whose command has done its work. -/
def exitOf : Status → Nat
  | .success => 0
  | .failed => 1

/-- What is made known about the end of a command. -/
def endNotes : Except CommandError Status → Journal
  | .ok _ => []
  | .error e => [⟨.error, .program, e.message⟩]

/-- What a command leaves behind. -/
def endingOf (level : Level) (result : CommandResult) : Ending :=
  { exit := match result.outcome with
      | .ok status => exitOf status
      | .error _ => 1
    written := result.written
    shown := (result.journal ++ endNotes result.outcome).shownLines level }

/-- What is made known about a level that does not exist. -/
def configurationNote (e : Level.Unknown) : Note :=
  ⟨.error, .program, "invalid configuration error=" ++ e.message⟩

end Call

/-! ## Help -/

/-- The name and the version of the program. -/
def versionText : Text := "cargo-outline 0.2.0"

/-- How the program is called. -/
def usageLine : Text := "Usage: cargo outline [OPTIONS] <COMMAND>"

/-- What can be given to the program. -/
def helpLines : List Text := [
  "Parse, validate and inspect bdd-outline feature documents", [], usageLine, [],
  "Commands:",
  "  parse   Parse feature documents and print them as JSON",
  "  check   Parse feature documents and validate the examples of every scenario",
  "  params  Print the execution instances of the scenarios in one document",
  "  help    Print this message", [],
  "Options:",
  "      --log-level <LOG_LEVEL>  Log level (trace, debug, info, warn, error)",
  "  -h, --help                   Print help",
  "  -V, --version                Print version"]

namespace UsageError

/-- What is said about arguments that ask for no command. -/
def message : UsageError → Text
  | nothingGiven => "nothing is given"
  | noCommand => "a command is required but none was given"
  | unknownCommand => "there is no such command"
  | unknownArgument => "unexpected argument"
  | noOperand => "a required argument was not given"
  | noValue => "a value is required but none was supplied"
  | invalidValue => "invalid value"
  | repeated => "an option cannot be used more than once"
  | needlessValue => "a switch takes no value"
  | help => "help is wanted"
  | version => "the version is wanted"

/-- What a call that asks for no command leaves behind. -/
def ending (e : UsageError) : Ending :=
  match e with
  | help => { exit := 0, written := helpLines.flatMap endLine, shown := [] }
  | version => { exit := 0, written := endLine versionText, shown := [] }
  | nothingGiven => { exit := 2, written := [], shown := helpLines }
  | _ => { exit := 2, written := [], shown := ["error: " ++ e.message, [], usageLine] }

end UsageError

/-! ## Running -/

/-- What a call that runs no command leaves behind. -/
def Refusal.ending : Refusal → Ending
  | usage e => e.ending
  | configuration e =>
    { exit := 2, written := [], shown := Journal.shownLines [Call.configurationNote e] .standard }

/-- Runs the program on a disk. -/
def runProgram (args : List Text) (environment : Option Text) (d : Disk) : Ending :=
  match Call.read args environment with
  | .error refusal => refusal.ending
  | .ok call => Call.endingOf call.level (call.command.run d)

end FeatureDoc
