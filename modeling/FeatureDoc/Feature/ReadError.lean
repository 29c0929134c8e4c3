/-
# Why a document cannot be read

A document that cannot be read has a fault on one of its lines. A fault of the structure is
something that stands where it must not; the other faults are those of example blocks and of
parameters.
-/
import FeatureDoc.Param.Scan

namespace FeatureDoc

/-- Something that stands where it must not. -/
inductive StructureFault where
  /-- A line continues a step where there is none. -/
  | continuationOfNothing
  /-- A step belongs to no scenario and to no background. -/
  | strayStep
  /-- A document describes two features. -/
  | secondFeature
  /-- A scenario ends without a step of its own. -/
  | stepless (scenario : Text)
deriving DecidableEq, Repr

/-- What is said about a fault of the structure. -/
def StructureFault.message : StructureFault → Text
  | continuationOfNothing => "cannot safely determine line mode"
  | strayStep => "step definition outside of a Scenario or a Background"
  | secondFeature => "multiple features in one document"
  | stepless scenario => "scenario \"" ++ scenario ++ "\" has no steps of its own"

/-- What is wrong on a line of a document. -/
inductive ReadFault where
  /-- The line stands where it must not; `text` is what it says. -/
  | misplaced (fault : StructureFault) (text : Text)
  /-- A vertical block has a column of this name already. -/
  | duplicateColumn (name : Text)
  /-- A row has not as many cells as the header. -/
  | raggedRow (expected found : Nat) (text : Text)
  /-- A line of a vertical block has no cell. -/
  | namelessColumn (text : Text)
  /-- A column of a vertical block has not as many cells as the first one. -/
  | raggedColumn (first name : Text) (expected found : Nat)
  /-- A parameter of a step is at fault. -/
  | parameter (cause : Param.ScanError) (text : Text)
deriving DecidableEq

/-- What is wrong with a document, and where. -/
structure ReadError where
  fault : ReadFault
  /-- The number of the line at fault. -/
  line : Nat
  /-- The path of the document as messages show it. -/
  path : Text
deriving DecidableEq

/-- What is said about a document that cannot be read. -/
def ReadError.message (e : ReadError) : Text :=
  let line := Text.ofNat e.line
  match e.fault with
  | .misplaced fault text =>
    fault.message ++ "\nline number: " ++ line ++ "\nline: " ++ text ++ "\nfile: " ++ e.path
  | .duplicateColumn name =>
    "example rows should contain unique parameters: `" ++ name ++
      "` appeared more than once (line " ++ line ++ " in " ++ e.path ++ ")"
  | .raggedRow expected found text =>
    "example row has " ++ Text.ofNat found ++ " cells but the header declares " ++
      Text.ofNat expected ++ " (line " ++ line ++ ": `" ++ text ++ "` in " ++ e.path ++ ")"
  | .namelessColumn text =>
    "vertical example row has no parameter name (line " ++ line ++ ": `" ++ text ++ "` in " ++
      e.path ++ ")"
  | .raggedColumn first name expected found =>
    "vertical example `" ++ name ++ "` has " ++ Text.ofNat found ++ " values but `" ++ first ++
      "` has " ++ Text.ofNat expected ++ " (examples at line " ++ line ++ " in " ++ e.path ++ ")"
  | .parameter cause text =>
    cause.message ++ "\nline number: " ++ line ++ "\nname: " ++ text ++ "\nfile: " ++ e.path

/-- What is said about the causes of an error, from the nearest to the first. -/
def ReadError.causes (e : ReadError) : List Text :=
  match e.fault with
  | .parameter cause _ => cause.message :: cause.causes
  | _ => []

end FeatureDoc
