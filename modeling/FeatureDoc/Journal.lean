/-
# The journal

Reading documents and running scenarios make known what they do. What is made known is kept in
a journal: a list of notes, each with a level and a topic, from the first to the last.
-/
import FeatureDoc.Text.Basic

namespace FeatureDoc

/-- How much a note matters. -/
inductive Level where
  | trace
  | debug
  | info
  | warn
  | error
deriving DecidableEq, Repr

namespace Level

/-- The levels count from the one that matters least. -/
def rank : Level → Nat
  | trace => 0
  | debug => 1
  | info => 2
  | warn => 3
  | error => 4

/-- All levels, from the one that matters least. -/
def all : List Level := [trace, debug, info, warn, error]

/-- The name of a level in small letters. -/
def word : Level → Text
  | trace => "trace"
  | debug => "debug"
  | info => "info"
  | warn => "warn"
  | error => "error"

/-- The name of a level in capital letters. -/
def banner : Level → Text
  | trace => "TRACE"
  | debug => "DEBUG"
  | info => "INFO"
  | warn => "WARN"
  | error => "ERROR"

/-- A text that names no level. -/
structure Unknown where
  text : Text
deriving DecidableEq, Repr

/-- What is said about a text that names no level. -/
def Unknown.message (e : Unknown) : Text :=
  "unknown log level '" ++ e.text ++ "', expected one of: " ++ Pieces.joined ", " (all.map word)

/-- The names of levels that can be given in any case. -/
def names : List (Text × Level) := all.map (fun l => (l.word, l)) ++ [("warning".toList, warn)]

/-- The level that a text names in any case. No letter outside ASCII has a letter of one of the
names as its small form, so that only capital letters of ASCII matter. -/
def read (t : Text) : Except Unknown Level :=
  match names.lookup (Text.lowerAscii t) with
  | some level => .ok level
  | none => .error ⟨t⟩

end Level

/-- What a note is about. -/
inductive Topic where
  /-- A document is read. -/
  | reading
  /-- A document is taken from the store. -/
  | storing
  /-- Step definitions are registered. -/
  | registering
  /-- The arguments of a step are resolved. -/
  | resolving
  /-- A scenario is run. -/
  | running
  /-- Documents are looked for on a disk. -/
  | discovering
  /-- A command does its work. -/
  | commanding
  /-- The program starts or ends. -/
  | program
deriving DecidableEq, Repr

/-- Something that has been made known. -/
structure Note where
  level : Level
  topic : Topic
  message : Text
deriving DecidableEq, Repr

/-- What has been made known, from the first note to the last. -/
abbrev Journal := List Note

/-- The notes that matter at least as much as the given level. -/
def Journal.atLeast (j : Journal) (level : Level) : Journal :=
  j.filter fun note => level.rank ≤ note.level.rank

end FeatureDoc
