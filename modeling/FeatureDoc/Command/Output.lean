/-
# Output of commands

Commands write lines about files, lists of instances, and JSON documents.
-/
import FeatureDoc.Disk.Document
import FeatureDoc.Example.Combination
import FeatureDoc.Feature.Coverage
import FeatureDoc.Feature.Report

namespace FeatureDoc

/-- A line feed at the end of a line. -/
def endLine (t : Text) : Text := t ++ ['\n']

/-! ## Checked files -/

/-- What checking a file comes to. -/
inductive Verdict where
  /-- There is no feature. -/
  | unloadable (error : LoadError)
  /-- Scenarios of the feature are not covered. -/
  | uncovered (first : CoverageError) (others : List CoverageError)
  /-- All scenarios are covered. -/
  | passed (scenarios : Nat)

namespace Verdict

/-- Why scenarios of a feature are not covered. -/
def uncoveredOf (f : Feature) : List CoverageError :=
  f.scenarios.filterMap fun s =>
    match f.validate s with
    | .ok () => none
    | .error e => some e

/-- What checking a feature comes to. -/
def ofFeature (f : Feature) : Verdict :=
  match uncoveredOf f with
  | [] => passed f.scenarios.length
  | first :: others => uncovered first others

/-- What checking a file comes to, from what loading it has yielded. -/
def ofLoading (result : Except LoadError Feature) : Verdict :=
  match result with
  | .error e => unloadable e
  | .ok f => ofFeature f

/-- Whether the check has failed. -/
def isFailure : Verdict → Bool
  | passed _ => false
  | _ => true

/-- A message with an indent after each of its line feeds. -/
def indented (message : Text) : Text :=
  message.flatMap fun c => if c = '\n' then "\n    ".toList else [c]

/-- The entry for something that is wrong with a file. -/
def failureEntry (path : Path) (message : Text) : Text :=
  endLine ("FAILED " ++ path.display ++ "\n    " ++ indented message)

/-- What is written about a checked file. -/
def write (path : Path) : Verdict → Text
  | unloadable e => failureEntry path e.message
  | uncovered first others => (first :: others).flatMap fun e => failureEntry path e.message
  | passed n => endLine ("ok " ++ path.display ++ " (" ++ Text.ofNat n ++ " scenario(s))")

end Verdict

/-- The line that ends a check. -/
def checkSummary (checked failed : Nat) : Text :=
  endLine (Text.ofNat checked ++ " feature file(s) checked, " ++ Text.ofNat failed ++ " failed")

/-! ## Instances -/

/-- The instances of a scenario. -/
structure InstanceReport where
  /-- The name of the scenario. -/
  scenario : Text
  /-- The number of the line that declares it. -/
  line : Nat
  instances : List Row

namespace InstanceReport

/-- The row of one instance. -/
def rowText (row : Row) : Text :=
  if row = [] then "(no parameters)" else Pieces.joined ", " row.display

/-- The instances for readers: a heading, then a line for each. -/
def write (r : InstanceReport) : Text :=
  endLine (r.scenario ++ " (line " ++ Text.ofNat r.line ++ "): " ++
      Text.ofNat r.instances.length ++ " instance(s)") ++
    r.instances.flatMap fun row => endLine ("  " ++ rowText row)

/-- The instances as a JSON document. -/
def toJson (r : InstanceReport) : Json := .object [
  ("scenario", .string r.scenario),
  ("line", .natural r.line),
  ("instances", .array (r.instances.map Row.toJson))]

end InstanceReport

/-! ## Documents -/

/-- JSON documents in an array, with indents. -/
def writeArray (docs : List Json) : Text := endLine (Json.array docs).pretty

/-- Features in an array, with indents. The writing ends at the first path that is no text. -/
def writeFeatures (features : List Feature) : Output :=
  Json.Record.arrayOutput (features.map Feature.toJson) ++ .text ['\n']

end FeatureDoc
