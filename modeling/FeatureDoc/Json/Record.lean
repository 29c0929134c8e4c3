/-
# Records

A record is an object that is written field by field. A field may hold something that has no JSON
form: the writing ends there, and what has been written before it stays.
-/
import FeatureDoc.Json.Writer

namespace FeatureDoc

/-! ## Output -/

/-- What comes of writing something. -/
structure Output where
  written : Text
  /-- Whether all of it has been written. -/
  isWhole : Bool

namespace Output

/-- A text is written. -/
def text (t : Text) : Output := { written := t, isWhole := true }

/-- Something without a written form ends the writing. -/
def stop : Output := { written := [], isWhole := false }

/-- One thing is written after the other, if the first one does not end the writing. -/
def andThen (first next : Output) : Output :=
  if first.isWhole then { next with written := first.written ++ next.written } else first

instance : Append Output := ⟨andThen⟩

/-- Things are written one after the other with commas between them. -/
def separated : List Output → Output
  | [] => text []
  | [item] => item
  | item :: next :: rest => item ++ text [','] ++ separated (next :: rest)

end Output

/-! ## Records -/

/-- An object on its way out. A field without a value holds something that has no JSON form. -/
structure Json.Record where
  fields : List (Text × Option Json)

namespace Json.Record

/-- A field on a line of its own. -/
def fieldOutput (level : Nat) : Text × Option Json → Output
  | (name, value) => .text (newLine level ++ writeString name ++ ": ") ++ match value with
    | some doc => .text (writePretty level doc)
    | none => .stop

/-- A record whose fields stand on lines of their own. -/
def output (level : Nat) (r : Record) : Output :=
  match r.fields with
  | [] => .text ['{', '}']
  | fields => .text ['{'] ++ .separated (fields.map (fieldOutput (level + 1))) ++
      .text (newLine level ++ ['}'])

/-- What is written of a record, from the outermost level. -/
def pretty (r : Record) : Text := (r.output 0).written

/-- Records in an array, each on lines of its own. -/
def arrayOutput : List Record → Output
  | [] => .text "[]"
  | records => .text ['['] ++ .separated (records.map fun r => .text (newLine 1) ++ r.output 1) ++
      .text (newLine 0 ++ [']'])

end Json.Record

end FeatureDoc
