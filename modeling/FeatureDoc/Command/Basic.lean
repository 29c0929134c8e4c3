/-
# Commands

A command works on a disk. What can go wrong in it comes before anything is written, except that a
path that is no text cannot be written as JSON: the features that are written before it stay. What
is wrong with a checked file is no failure of the command but makes its status.
-/
import FeatureDoc.Command.Output
import FeatureDoc.Command.Request
import FeatureDoc.Disk.Discovery

namespace FeatureDoc

/-- What a command that has done its work found. -/
inductive Status where
  | success
  /-- Something was wrong with what it checked. -/
  | failed
deriving DecidableEq, Repr

/-- Why a command could not do its work. -/
inductive CommandError where
  /-- A path stands for no files. -/
  | unexpanded (cause : ExpandError)
  /-- There is no feature for a file. -/
  | unloadable (path : Path) (cause : LoadError)
  /-- A cell of a scenario was refused. -/
  | refused (scenario : Text) (cause : ConversionRefused)
  /-- No scenario of a file was asked for. -/
  | nothingSelected (file : Path)
  /-- The path of a feature has no JSON form. -/
  | unwritable
deriving DecidableEq

/-- What is said about a path that stands for no files, and about the causes. -/
def ExpandError.message : ExpandError → Text
  | missing path => "no such feature file or directory: " ++ path.display
  | unlisted path inner => Pieces.joined ": " ["failed to walk " ++ path.display,
      "IO error for operation on " ++ inner.display, DiskError.denied.message,
      DiskError.denied.message]

/-- What is said about a command that could not do its work: what happened, then all its causes. -/
def CommandError.message : CommandError → Text
  | unexpanded cause => cause.message
  | unloadable path cause =>
    Pieces.joined ": " (("failed to parse " ++ path.display) :: cause.message :: cause.causes)
  | refused scenario cause =>
    Pieces.joined ": "
      ["failed to parametrize " ++ Text.quoted scenario, cause.message, cause.reason]
  | nothingSelected file => "no scenario in " ++ file.display ++ " matches the filter"
  | unwritable =>
    "failed to serialize JSON output: path contains invalid UTF-8 characters"

/-- What running a command comes to. -/
structure CommandResult where
  /-- What it has written. -/
  written : Text
  /-- Its status, or why it could not do its work. -/
  outcome : Except CommandError Status
  /-- What has been made known. -/
  journal : Journal

namespace CommandResult

/-- A command that could not do its work. -/
def failure (e : CommandError) (journal : Journal) : CommandResult :=
  { written := [], outcome := .error e, journal }

end CommandResult

namespace Command

/-- Loads the document at a path. -/
def load (d : Disk) (path : Path) : Loading :=
  let (base, file) := Path.split path
  d.load base file

/-! ## Checking -/

/-- The status of checked files. -/
def statusOf (verdicts : List Verdict) : Status :=
  if verdicts.any Verdict.isFailure then .failed else .success

/-- What checking the file at a path comes to. -/
def verdict (d : Disk) (path : Path) : Verdict := .ofLoading (load d path).result

/-- What is written about checked files. -/
def checkOutput (d : Disk) (files : List Path) : Text :=
  (files.flatMap fun path => (verdict d path).write path) ++
    checkSummary files.length ((files.map (verdict d)).countP Verdict.isFailure)

/-- Checks files. -/
def runCheck (d : Disk) (paths : List Path) : CommandResult :=
  let found := d.expandNotes paths
  match d.expandAll paths with
  | .error e => .failure (.unexpanded e) found
  | .ok files =>
    { written := checkOutput d files
      outcome := .ok (statusOf (files.map (verdict d)))
      journal := found ++ files.flatMap fun path => (load d path).journal }

/-! ## Reading -/

/-- What loading documents one after the other comes to; the first that fails ends it. -/
structure Loadings where
  result : Except CommandError (List Feature)
  journal : Journal

/-- Loads documents one after the other. -/
def loadAll (d : Disk) : List Path → Loadings
  | [] => { result := .ok [], journal := [] }
  | path :: rest =>
    let first := load d path
    match first.result with
    | .error e => { result := .error (.unloadable path e), journal := first.journal }
    | .ok f =>
      let others := loadAll d rest
      { result := others.result.map (f :: ·), journal := first.journal ++ others.journal }

/-- What is made known when all documents have been read. -/
def readNote (count : Nat) : Note :=
  ⟨.info, .commanding, "parsed feature documents count=" ++ Text.ofNat count⟩

/-- Reads documents and writes their features. -/
def runParse (d : Disk) (paths : List Path) : CommandResult :=
  let found := d.expandNotes paths
  match d.expandAll paths with
  | .error e => .failure (.unexpanded e) found
  | .ok files =>
    let loadings := loadAll d files
    match loadings.result with
    | .error e => .failure e (found ++ loadings.journal)
    | .ok features =>
      let output := writeFeatures features
      { written := output.written
        outcome := if output.isWhole then .ok .success else .error .unwritable
        journal := found ++ loadings.journal ++ [readNote features.length] }

/-! ## Instances -/

/-- Whether a scenario is asked for. -/
def isSelected (filter : Option Regex) (s : Scenario) : Bool :=
  match filter with
  | none => true
  | some r => r.isMatch s.name

/-- The instances of scenarios; the first refused cell decides. -/
def instanceReports (f : Feature) : List Scenario → Except CommandError (List InstanceReport)
  | [] => .ok []
  | s :: rest =>
    match f.groups s .none with
    | .error e => .error (.refused s.name e)
    | .ok groups => (instanceReports f rest).map
        ({ scenario := s.name, line := s.line, instances := instances groups } :: ·)

/-- What is made known about scenarios that are not covered. -/
def coverageNotes (f : Feature) (scenarios : List Scenario) : Journal :=
  scenarios.filterMap fun s =>
    match f.validate s with
    | .ok () => none
    | .error e => some ⟨.warn, .commanding, e.message ++ " scenario=" ++ Text.quoted s.name⟩

/-- What is written about the instances of scenarios. -/
def instancesOutput (json : Bool) (reports : List InstanceReport) : Text :=
  if json then writeArray (reports.map InstanceReport.toJson)
  else reports.flatMap InstanceReport.write

/-- Writes the instances of the scenarios of a document. -/
def runParams (d : Disk) (file : Path) (filter : Option Regex) (json : Bool) : CommandResult :=
  let loading := load d file
  match loading.result with
  | .error e => .failure (.unloadable file e) loading.journal
  | .ok f =>
    let selected := f.scenarios.filter (isSelected filter)
    let journal := loading.journal ++ coverageNotes f selected
    match instanceReports f selected with
    | .error e => .failure e journal
    | .ok [] => .failure (.nothingSelected file) journal
    | .ok reports =>
      { written := instancesOutput json reports, outcome := .ok .success, journal }

/-- Runs a command on a disk. -/
def run (d : Disk) : Command → CommandResult
  | parse paths => runParse d paths
  | check paths => runCheck d paths
  | params file filter json => runParams d file filter json

end Command

end FeatureDoc
