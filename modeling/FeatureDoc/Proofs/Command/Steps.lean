/-
# Commands step by step

A command writes as it goes along, and what is written stays, whatever comes later. Here the
commands are spelled out in this way: every result is asked for and every text is written where
its turn comes, and the first error ends the command. A command that is run so comes to the
outcome and leaves the output that running it is said to have.

* `Writing` : parts of commands, with what has been written when they end;
* `Writing.mapM_ofResult`, `Writing.forM_write` : results and texts that come one after the other;
* `Writing.ofOutput_append` : what may end the writing is written one after the other;
* `Command.steps` : the steps of a command;
* `Command.run_steps` : the steps come to what the command comes to.
-/
import FeatureDoc.Proofs.Command.Check
import FeatureDoc.Proofs.Json.Record

namespace FeatureDoc

/-! ## Parts of commands -/

/-- A part of a command. From what has been written before it, it comes to a result, or to an
error that ends the command, and to what has been written by then. -/
abbrev Writing (α : Type) : Type := EStateM CommandError Text α

namespace Writing

/-- Writes a text after what has been written. -/
def write (t : Text) : Writing Unit := modify (· ++ t)

/-- Goes on with a result, or ends the command. -/
def ofResult {α : Type} : Except CommandError α → Writing α
  | .ok a => pure a
  | .error e => throw e

@[simp]
theorem ofResult_ok {α : Type} (a : α) : ofResult (.ok a) = pure a := rfl

/-- Writing nothing does nothing. -/
theorem write_nil : write [] = pure () := by
  funext before
  exact congrArg (EStateM.Result.ok ()) (List.append_nil before)

/-- Texts can be written one after the other. -/
theorem write_append (t t' : Text) : write (t ++ t') = (do write t; write t') := by
  funext before
  exact congrArg (EStateM.Result.ok ()) (List.append_assoc before t t').symm

/-- A text can be written for each member of a list. -/
theorem forM_write {α : Type} (text : α → Text) (l : List α) :
    (l.forM fun a => write (text a)) = write (l.flatMap text) := by
  induction l with
  | nil => exact write_nil.symm
  | cons a l ih =>
    rw [List.flatMap_cons, write_append, ← ih]
    rfl

/-- Results that are asked for one after the other are a result. -/
theorem mapM_ofResult {α β : Type} (f : α → Except CommandError β) (l : List α) :
    (l.mapM fun a => ofResult (f a)) = ofResult (l.mapM f) := by
  induction l with
  | nil => rfl
  | cons a l ih =>
    rw [List.mapM_cons, List.mapM_cons, ih]
    cases f a with
    | error e => rfl
    | ok b => cases l.mapM f <;> rfl

/-- Writes as much of something as can be written. If this is not all of it, the command ends. -/
def ofOutput (o : Output) : Writing Unit := do
  write o.written
  if o.isWhole then return () else throw .unwritable

@[simp]
theorem ofOutput_text (t : Text) : ofOutput (.text t) = write t := rfl

/-- Something without a written form ends the command. -/
theorem ofOutput_stop : ofOutput .stop = throw .unwritable := by
  rw [ofOutput, Output.stop, write_nil]
  rfl

/-- One thing is written after the other, if the first one does not end the command. -/
theorem ofOutput_append (o o' : Output) :
    ofOutput (o ++ o') = (do ofOutput o; ofOutput o') := by
  obtain ⟨t, isWhole⟩ := o
  cases isWhole with
  | true =>
    change (do write (t ++ o'.written); _) = _
    rw [write_append]
    rfl
  | false => rfl

/-- Does something for each member of a list, and writes a comma between two of them. -/
def separatedly {α : Type} (part : α → Writing Unit) : List α → Writing Unit
  | [] => return ()
  | [a] => part a
  | a :: b :: rest => do
    part a
    write [',']
    separatedly part (b :: rest)

/-- Things are written one after the other with commas between them. -/
theorem separatedly_ofOutput {α : Type} (output : α → Output) (l : List α) :
    separatedly (fun a => ofOutput (output a)) l = ofOutput (.separated (l.map output)) := by
  induction l with
  | nil => exact write_nil.symm
  | cons a l ih =>
    cases l with
    | nil => rfl
    | cons b l =>
      rw [List.map_cons] at ih
      rw [separatedly, ih, List.map_cons, List.map_cons, Output.separated, ofOutput_append,
        ofOutput_append, ofOutput_text, bind_assoc]

end Writing

/-- What a command comes to if it is a part of something that has written before it. -/
def CommandResult.after (r : CommandResult) (before : Text) :
    EStateM.Result CommandError Text Status :=
  match r.outcome with
  | .ok status => .ok status (before ++ r.written)
  | .error e => .error e (before ++ r.written)

namespace Command

open Writing

/-! ## The steps of commands -/

/-- Finds the files that paths stand for. -/
def finding (d : Disk) (paths : List Path) : Writing (List Path) := do
  let parts ← paths.mapM fun p => ofResult ((d.expand p).mapError .unexpanded)
  return parts.flatten

/-- The feature of the document at a path, or why the command ends. -/
def loaded (d : Disk) (path : Path) : Except CommandError Feature :=
  (load d path).result.mapError (.unloadable path)

/-- Writes JSON documents in an array, and ends the line. -/
def writing (docs : List Json) : Writing Unit := do
  write (Json.array docs).pretty
  write ['\n']

/-- Writes a field of a record on a line of its own, or ends the command if it has no value. -/
def writingField (level : Nat) (field : Text × Option Json) : Writing Unit := do
  write (Json.newLine level ++ Json.writeString field.1 ++ ": ")
  match field.2 with
  | some doc => write (Json.writePretty level doc)
  | none => throw .unwritable

/-- Writes a record field by field, in an array. -/
def writingRecord (r : Json.Record) : Writing Unit := do
  write (Json.newLine 1)
  match r.fields with
  | [] => write ['{', '}']
  | fields => do
    write ['{']
    separatedly (writingField 2) fields
    write (Json.newLine 1 ++ ['}'])

/-- Writes records in an array one after the other, and ends the line. -/
def writingRecords : List Json.Record → Writing Unit
  | [] => do
    write "[]"
    write ['\n']
  | records => do
    write ['[']
    separatedly writingRecord records
    write (Json.newLine 0 ++ [']'])
    write ['\n']

/-- Reads documents and writes their features. -/
def parsing (d : Disk) (paths : List Path) : Writing Status := do
  let files ← finding d paths
  let features ← files.mapM fun path => ofResult (loaded d path)
  writingRecords (features.map Feature.toJson)
  return .success

/-- Checks the file at a path, and finds whether something is wrong with it. -/
def checking (d : Disk) (path : Path) : Writing Bool :=
  match (load d path).result with
  | .error e => do
    write (Verdict.failureEntry path e.message)
    return true
  | .ok f =>
    match Verdict.uncoveredOf f with
    | [] => do
      write (endLine
        ("ok " ++ path.display ++ " (" ++ Text.ofNat f.scenarios.length ++ " scenario(s))"))
      return false
    | errors => do
      errors.forM fun e => write (Verdict.failureEntry path e.message)
      return true

/-- Checks files, and counts those with which something is wrong. -/
def checkingAll (d : Disk) (paths : List Path) : Writing Status := do
  let files ← finding d paths
  let failed ← files.foldlM (fun failed path => do
    let isFailure ← checking d path
    return if isFailure then failed + 1 else failed) 0
  write (checkSummary files.length failed)
  return if failed = 0 then .success else .failed

/-- The instances of a scenario, or why the command ends. -/
def report (f : Feature) (s : Scenario) : Except CommandError InstanceReport :=
  ((f.groups s .none).mapError (.refused s.name)).map fun groups =>
    { scenario := s.name, line := s.line, instances := instances groups }

/-- Adds the instances of a scenario to reports, if it is asked for. -/
def reporting (f : Feature) (filter : Option Regex) (reports : List InstanceReport)
    (s : Scenario) : Writing (List InstanceReport) :=
  if isSelected filter s then do
    let r ← ofResult (report f s)
    return reports ++ [r]
  else return reports

/-- Writes the instances of a scenario for readers. -/
def listing (r : InstanceReport) : Writing Unit := do
  write (endLine (r.scenario ++ " (line " ++ Text.ofNat r.line ++ "): " ++
    Text.ofNat r.instances.length ++ " instance(s)"))
  r.instances.forM fun row => write (endLine ("  " ++ InstanceReport.rowText row))

/-- Writes the instances of the scenarios of a document that are asked for. -/
def instancing (d : Disk) (file : Path) (filter : Option Regex) (json : Bool) :
    Writing Status := do
  let f ← ofResult (loaded d file)
  match ← f.scenarios.foldlM (reporting f filter) [] with
  | [] => throw (.nothingSelected file)
  | reports => do
    if json then writing (reports.map InstanceReport.toJson) else reports.forM listing
    return .success

/-- The steps of a command. -/
def steps (d : Disk) : Command → Writing Status
  | parse paths => parsing d paths
  | check paths => checkingAll d paths
  | params file filter json => instancing d file filter json

/-! ## What the steps come to -/

/-- The files that paths stand for are found, or the command ends. -/
theorem finding_eq (d : Disk) (paths : List Path) :
    finding d paths = ofResult ((d.expandAll paths).mapError .unexpanded) := by
  rw [finding, mapM_ofResult, mapM_mapError, Disk.expandAll_eq]
  cases paths.mapM d.expand <;> rfl

/-- Documents are loaded one after the other. -/
theorem loadAll_eq (d : Disk) (files : List Path) :
    (loadAll d files).result = files.mapM (loaded d) := by
  induction files with
  | nil => rfl
  | cons path rest ih =>
    rw [List.mapM_cons, ← ih, loadAll, loaded]
    cases (load d path).result with
    | error e => rfl
    | ok f =>
      change (loadAll d rest).result.map (f :: ·) = (do return f :: (← (loadAll d rest).result))
      cases (loadAll d rest).result <;> rfl

/-- Scenarios are reported one after the other. -/
theorem instanceReports_eq (f : Feature) (scenarios : List Scenario) :
    instanceReports f scenarios = scenarios.mapM (report f) := by
  induction scenarios with
  | nil => rfl
  | cons s rest ih =>
    rw [List.mapM_cons, ← ih, instanceReports, report]
    cases f.groups s .none with
    | error e => rfl
    | ok groups => cases instanceReports f rest <;> rfl

/-- A field is written as far as it can be. -/
theorem writingField_eq (level : Nat) (field : Text × Option Json) :
    writingField level field = ofOutput (Json.Record.fieldOutput level field) := by
  obtain ⟨name, value⟩ := field
  cases value with
  | some doc => exact (write_append _ _).symm
  | none =>
    rw [Json.Record.fieldOutput, ofOutput_append, ofOutput_stop]
    rfl

/-- A record is written as far as it can be. -/
theorem writingRecord_eq (r : Json.Record) :
    writingRecord r = ofOutput (.text (Json.newLine 1) ++ r.output 1) := by
  rw [writingRecord, Json.Record.output, ofOutput_append, ofOutput_text]
  cases r.fields with
  | nil => rfl
  | cons field rest =>
    simp only [funext (writingField_eq 2), separatedly_ofOutput, ofOutput_append, ofOutput_text,
      bind_assoc]

/-- Features are written as far as they can be. -/
theorem writingRecords_eq (features : List Feature) :
    writingRecords (features.map Feature.toJson) = ofOutput (writeFeatures features) := by
  rw [writeFeatures, ofOutput_append, ofOutput_text]
  cases features.map Feature.toJson with
  | nil => rfl
  | cons r rest =>
    have hrecord : writingRecord = fun r => ofOutput (.text (Json.newLine 1) ++ r.output 1) :=
      funext writingRecord_eq
    rw [writingRecords, Json.Record.arrayOutput, hrecord, separatedly_ofOutput]
    · simp only [ofOutput_append, ofOutput_text, bind_assoc]
    · exact List.cons_ne_nil _ _
    · exact List.cons_ne_nil _ _

/-- The array of JSON documents is written at once. -/
theorem writing_eq (docs : List Json) : writing docs = write (writeArray docs) :=
  (write_append _ _).symm

/-- What there is to say about a file is written, and whether something is wrong with it is
found. -/
theorem checking_eq (d : Disk) (path : Path) : checking d path =
    (do write ((verdict d path).write path); return (verdict d path).isFailure) := by
  rw [checking, verdict]
  cases (load d path).result with
  | error e => rfl
  | ok f =>
    dsimp only [Verdict.ofLoading]
    rw [Verdict.ofFeature]
    cases Verdict.uncoveredOf f with
    | nil => rfl
    | cons first others =>
      dsimp only
      rw [forM_write]
      rfl

/-- What there is to say about files is written, and those with which something is wrong are
counted. -/
theorem foldlM_checking (d : Disk) (files : List Path) (count : Nat) :
    files.foldlM (fun failed path => do
      let isFailure ← checking d path
      return if isFailure then failed + 1 else failed) count =
    (do
      write (files.flatMap fun path => (verdict d path).write path)
      return count + (files.map (verdict d)).countP Verdict.isFailure) := by
  induction files generalizing count with
  | nil =>
    rw [List.flatMap_nil, write_nil]
    rfl
  | cons path rest ih =>
    rw [List.foldlM_cons, checking_eq, List.flatMap_cons, write_append]
    simp only [ih, bind_assoc, pure_bind, List.map_cons, List.countP_cons]
    cases (verdict d path).isFailure
    · rfl
    · rw [if_pos rfl, if_pos rfl, Nat.add_assoc, Nat.add_comm 1]

/-- The scenarios that are asked for are reported one after the other. -/
theorem foldlM_reporting (f : Feature) (filter : Option Regex) (scenarios : List Scenario)
    (reports : List InstanceReport) :
    scenarios.foldlM (reporting f filter) reports = ofResult
      ((instanceReports f (scenarios.filter (isSelected filter))).map (reports ++ ·)) := by
  rw [instanceReports_eq]
  induction scenarios generalizing reports with
  | nil => exact congrArg pure (List.append_nil reports).symm
  | cons s rest ih =>
    rw [List.foldlM_cons, reporting, List.filter_cons]
    split
    · rw [List.mapM_cons, bind_assoc]
      cases report f s with
      | error e => rfl
      | ok r =>
        refine (ih _).trans ?_
        cases (rest.filter (isSelected filter)).mapM (report f) with
        | error e => rfl
        | ok others => exact congrArg pure (List.append_assoc _ _ _)
    · exact ih reports

/-- What is written about the instances of a scenario is written at once. -/
theorem listing_eq (r : InstanceReport) : listing r = write r.write := by
  rw [listing, forM_write, ← write_append]
  rfl

/-- The instances of scenarios are written one after the other. -/
theorem forM_listing (reports : List InstanceReport) :
    reports.forM listing = write (reports.flatMap InstanceReport.write) := by
  rw [← forM_write]
  exact congrArg (List.forM reports) (funext listing_eq)

/-- A command that could not do its work has written nothing. -/
theorem after_failure (e : CommandError) (journal : Journal) (before : Text) :
    (CommandResult.failure e journal).after before = .error e before :=
  congrArg (EStateM.Result.error e) (List.append_nil before)

/-- The steps of reading documents come to what reading them comes to. -/
theorem run_parsing (d : Disk) (paths : List Path) (before : Text) :
    (parsing d paths).run before = (runParse d paths).after before := by
  rw [parsing, runParse, finding_eq]
  cases d.expandAll paths with
  | error e => exact (after_failure _ _ _).symm
  | ok files =>
    simp only [Except.mapError, ofResult_ok, pure_bind, mapM_ofResult, ← loadAll_eq]
    cases (loadAll d files).result with
    | error e => exact (after_failure _ _ _).symm
    | ok features =>
      simp only [ofResult_ok, pure_bind, writingRecords_eq]
      generalize writeFeatures features = output
      obtain ⟨written, isWhole⟩ := output
      cases isWhole <;> rfl

/-- The steps of checking files come to what checking them comes to. -/
theorem run_checkingAll (d : Disk) (paths : List Path) (before : Text) :
    (checkingAll d paths).run before = (runCheck d paths).after before := by
  rw [checkingAll, runCheck, finding_eq]
  cases d.expandAll paths with
  | error e => exact (after_failure _ _ _).symm
  | ok files =>
    simp only [Except.mapError, ofResult_ok, pure_bind, foldlM_checking, bind_assoc, Nat.zero_add,
      ← statusOf_eq]
    exact congrArg (EStateM.Result.ok _) (List.append_assoc before _ _)

/-- The steps of writing instances come to what writing them comes to. -/
theorem run_instancing (d : Disk) (file : Path) (filter : Option Regex) (json : Bool)
    (before : Text) :
    (instancing d file filter json).run before = (runParams d file filter json).after before := by
  rw [instancing, runParams, loaded]
  cases (load d file).result with
  | error e => exact (after_failure _ _ _).symm
  | ok f =>
    simp only [Except.mapError, ofResult_ok, pure_bind, foldlM_reporting]
    cases instanceReports f (f.scenarios.filter (isSelected filter)) with
    | error e => exact (after_failure _ _ _).symm
    | ok reports =>
      cases reports with
      | nil => exact (after_failure _ _ _).symm
      | cons r rest =>
        simp only [Except.map, ofResult_ok, pure_bind, List.nil_append, writing_eq]
        cases json with
        | true => rfl
        | false =>
          simp only [Bool.false_eq_true, if_false, forM_listing]
          rfl

/-- The steps of a command come to what the command comes to. -/
theorem run_steps (d : Disk) (command : Command) (before : Text) :
    (steps d command).run before = (run d command).after before := by
  cases command with
  | parse paths => exact run_parsing d paths before
  | check paths => exact run_checkingAll d paths before
  | params file filter json => exact run_instancing d file filter json before

end Command

end FeatureDoc
