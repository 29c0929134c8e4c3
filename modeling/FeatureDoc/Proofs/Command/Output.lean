/-
# Output that is whole

What can go wrong in a command comes before the first text that is written, so that the output of
a command that fails is never a part of what it should be. There is one exception: a path that is
no text is found out only when the feature with this path is written. Reading documents and writing
instances fail for a few reasons each, and otherwise write all that they were asked for.

* `Command.written_eq_nil_of_error` : what a failed command has written;
* `Command.sources` : the files that are read;
* `Command.isWhole_writeFeatures_iff` : when features are written as a whole;
* `Command.parsesAll_run` : when documents are read, and what is written about them;
* `Command.eq_of_hasForm_of_load` : what is written about documents tells them apart;
* `Command.listsAll_run` : when instances are written, and which ones;
* `Command.output_is_whole` : all of this, for commands that write step by step;
* `Command.parse_stops_part` : files that are neither regular nor directories, directories that
  cannot be listed, and paths that are no texts.
-/
import FeatureDoc.Proofs.Command.Steps
import FeatureDoc.Proofs.Example.Groups
import FeatureDoc.Proofs.Feature.Report
import FeatureDoc.Proofs.Json.Layout

namespace FeatureDoc

namespace InstanceReport

/-- The line about an instance: what each of its names is bound to, if there are any. -/
def rowLine : Row → Text
  | [] => "  (no parameters)"
  | row => "  " ++ Pieces.joined ", " (row.map fun binding => binding.1 ++ '=' :: binding.2.display)

/-- The lines about the instances of a scenario. -/
def lines (r : InstanceReport) : List Text :=
  (r.scenario ++ " (line " ++ Text.ofNat r.line ++ "): " ++ Text.ofNat r.instances.length ++
    " instance(s)") :: r.instances.map rowLine

/-- What is written about the instances of a scenario are their lines. -/
theorem write_eq (r : InstanceReport) : r.write = Text.writeLines r.lines := by
  have hrow : ∀ row : Row, endLine ("  " ++ rowText row) = rowLine row ++ ['\n'] := by
    intro row
    cases row with
    | nil => rfl
    | cons binding rest =>
      rw [rowText, if_neg (List.cons_ne_nil _ _)]
      rfl
  rw [write, lines, Text.writeLines, List.flatMap_cons, List.flatMap_map]
  exact congrArg (endLine _ ++ ·) (congrArg (List.flatMap · r.instances) (funext hrow))

/-- The JSON form of the instances of a scenario: an object for each of them. -/
def form (r : InstanceReport) : Json := .object [
  ("scenario", .string r.scenario),
  ("line", .natural r.line),
  ("instances", .array (r.instances.map fun row =>
    .object (row.map fun binding => (binding.1, binding.2.toJson))))]

end InstanceReport

/-- A report holds all instances of a scenario: one for each way to pick a row from each of its
groups, in lexicographic order. -/
structure InstanceReport.Covers (f : Feature) (s : Scenario) (r : InstanceReport) : Prop where
  scenario : r.scenario = s.name
  line : r.line = s.line
  instances : ∃ (groups : List Group) (picks : List (List Nat)), f.groups s .none = .ok groups ∧
    picks.Pairwise (· < ·) ∧
    (∀ pick, pick ∈ picks ↔ List.Forall₂ (fun i g => i < g.rows.length) pick groups) ∧
    r.instances = picks.map (Group.pickRows groups)

namespace Command

/-! ## Failures -/

/-- A command fails before it writes, or does its work, or comes to a path that is no text. -/
theorem exists_failure_or (d : Disk) (command : Command) :
    (∃ e journal, run d command = .failure e journal) ∨
      (∃ status, (run d command).outcome = .ok status) ∨
      (run d command).outcome = .error .unwritable ∧ ∃ paths, command = .parse paths := by
  cases command with
  | parse paths =>
    rw [run, runParse]
    cases d.expandAll paths with
    | error e => exact Or.inl ⟨_, _, rfl⟩
    | ok files =>
      dsimp only
      cases (loadAll d files).result with
      | error e => exact Or.inl ⟨_, _, rfl⟩
      | ok features =>
        dsimp only
        cases (writeFeatures features).isWhole with
        | true => exact Or.inr (Or.inl ⟨_, rfl⟩)
        | false => exact Or.inr (Or.inr ⟨rfl, paths, rfl⟩)
  | check paths =>
    rw [run, runCheck]
    cases d.expandAll paths with
    | error e => exact Or.inl ⟨_, _, rfl⟩
    | ok files => exact Or.inr (Or.inl ⟨_, rfl⟩)
  | params file filter json =>
    rw [run, runParams]
    cases (load d file).result with
    | error e => exact Or.inl ⟨_, _, rfl⟩
    | ok f =>
      dsimp only
      split
      · exact Or.inl ⟨_, _, rfl⟩
      · exact Or.inl ⟨_, _, rfl⟩
      · exact Or.inr (Or.inl ⟨_, rfl⟩)

/-- A failed command has written nothing, unless it has read documents and come to a path that is
no text. -/
theorem written_eq_nil_of_error {d : Disk} {command : Command} {e : CommandError}
    (h : (run d command).outcome = .error e) :
    (run d command).written = [] ∨ e = .unwritable ∧ ∃ paths, command = .parse paths := by
  rcases exists_failure_or d command with ⟨e', journal, hfailure⟩ | ⟨status, hok⟩ | ⟨herror, hparse⟩
  · rw [hfailure]
    exact Or.inl rfl
  · cases h.symm.trans hok
  · exact Or.inr ⟨Except.error.inj (h.symm.trans herror), hparse⟩

/-! ## Files -/

/-- Where the features of commands come from. -/
structure Sources (d : Disk) : Prop where
  /-- On a tidy disk, a file stands for itself and a directory for the feature files below it, in
  the order of their names. -/
  expanded : d.root.Tidy → ∀ paths files, d.expandAll paths = .ok files ↔
    ∃ parts, List.Forall₂ d.StandsFor paths parts ∧ files = parts.flatten
  /-- The feature of a file is what the content of the file yields. -/
  loaded : Path.isAbsolute d.cwd = true → ∀ path isRegular content,
    d.node? path = .ok (.leaf isRegular content) →
      ∃ full relativePath, Path.isAbsolute full = true ∧
        Path.names full = Path.names (d.place path) ∧
        (load d path).result = Disk.loaded full relativePath content

/-- The features of commands come from the files that paths stand for. -/
theorem sources (d : Disk) : Sources d where
  expanded hroot paths files := by
    rw [Disk.expandAll_eq_ok_iff]
    simp only [Disk.expand_eq_ok_iff hroot]
  loaded hcwd _ _ _ hleaf := Disk.load_split_of_leaf hcwd hleaf

/-! ## Reading documents -/

/-- Reading documents comes to nothing or to the features of all of them. -/
structure ParsesAll (d : Disk) (paths : List Path) (r : CommandResult) : Prop where
  /-- It fails, for another reason than a path that is no text, exactly if one of the paths stands
  for no files or a file has no feature. -/
  fails_iff : (∃ e, e ≠ .unwritable ∧ r.outcome = .error e) ↔
    (∃ p ∈ paths, ¬d.Expands p) ∨
      ∃ files, d.expandAll paths = .ok files ∧
        ∃ file ∈ files, ∃ e, (load d file).result = .error e
  /-- Otherwise there is a feature for each file. If their paths are texts, their forms are written
  in one array, in the order of the files. -/
  writes : (¬∃ e, e ≠ .unwritable ∧ r.outcome = .error e) →
    ∃ files features, d.expandAll paths = .ok files ∧
      List.Forall₂ (fun file f => (load d file).result = .ok f) files features ∧
      ∀ docs, List.Forall₂ Feature.HasForm features docs →
        r.outcome = .ok .success ∧ r.written = Text.writeLines (Json.array docs).lines

/-- A feature is loaded from a document that has one. -/
theorem loaded_eq_ok_iff {d : Disk} {path : Path} {f : Feature} :
    loaded d path = .ok f ↔ (load d path).result = .ok f := by
  rw [loaded]
  cases (load d path).result <;> simp [Except.mapError]

/-- A document is not loaded exactly if it has no feature. -/
theorem exists_loaded_eq_error_iff {d : Disk} {path : Path} :
    (∃ e, loaded d path = .error e) ↔ ∃ e, (load d path).result = .error e := by
  rw [loaded]
  cases (load d path).result <;> simp [Except.mapError]

/-- Documents are loaded before anything is written. -/
theorem loadAll_ne_unwritable {d : Disk} {files : List Path} {e : CommandError}
    (h : (loadAll d files).result = .error e) : e ≠ .unwritable := by
  induction files with
  | nil => cases h
  | cons path rest ih =>
    rw [loadAll] at h
    cases hload : (load d path).result with
    | error cause =>
      rw [hload] at h
      obtain rfl := Except.error.inj h
      simp
    | ok f =>
      rw [hload] at h
      exact ih (eq_error_of_map_eq_error h)

/-- Features that have forms are written as the array of these. -/
theorem writeFeatures_eq {features : List Feature} {docs : List Json}
    (h : List.Forall₂ Feature.HasForm features docs) :
    writeFeatures features = .text (Text.writeLines (Json.array docs).lines) := by
  have hmakes : List.Forall₂ Json.Record.Makes (features.map Feature.toJson) docs :=
    List.forall₂_map_left_iff.mpr (h.imp fun _ _ => Feature.makes_iff.mpr)
  rw [writeFeatures, Json.Record.arrayOutput_eq hmakes, Output.text_append, ← Json.endLine_pretty]
  rfl

/-- Features are written as a whole exactly if all of them have forms. -/
theorem isWhole_writeFeatures_iff {features : List Feature} :
    (writeFeatures features).isWhole = true ↔ ∀ f ∈ features, ∃ doc, f.HasForm doc := by
  have hpaths : ∀ f : Feature, (f.toJson.fields.all fun field => field.2.isSome) = true ↔
      ∃ doc, f.HasForm doc := by
    intro f
    simp only [Feature.toJson, List.all_cons, List.all_nil, Option.isSome_some, Option.isSome_map,
      Bool.true_and, Bool.and_true, Bool.and_eq_true, Option.isSome_iff_exists,
      Path.text?_eq_some_iff]
    constructor
    · rintro ⟨⟨path, hpath⟩, relativePath, hrelative⟩
      exact ⟨_, path, relativePath, hpath, hrelative, rfl⟩
    · rintro ⟨doc, path, relativePath, hpath, hrelative, -⟩
      exact ⟨⟨path, hpath⟩, relativePath, hrelative⟩
  rw [writeFeatures, Output.isWhole_append, Json.Record.isWhole_arrayOutput, Output.isWhole_text,
    Bool.and_true, List.all_map, List.all_eq_true]
  exact forall₂_congr fun f _ => hpaths f

/-- Reading documents comes to nothing or to the features of all of them. -/
theorem parsesAll_run (d : Disk) (paths : List Path) :
    ParsesAll d paths (run d (.parse paths)) := by
  rw [run, runParse]
  cases hfiles : d.expandAll paths with
  | error e =>
    have hsome := Disk.exists_expandAll_eq_error_iff.mp ⟨e, hfiles⟩
    have hfailure : CommandError.unexpanded e ≠ .unwritable := by simp
    exact
      { fails_iff := iff_of_true ⟨_, hfailure, rfl⟩ (Or.inl hsome)
        writes := fun h => absurd ⟨_, hfailure, rfl⟩ h }
  | ok files =>
    have hpaths : ¬∃ p ∈ paths, ¬d.Expands p := by
      rw [← Disk.exists_expandAll_eq_error_iff, hfiles]
      rintro ⟨e, ⟨⟩⟩
    have hfails := exists_mapM_eq_error_iff (f := loaded d) (l := files)
    simp only [exists_loaded_eq_error_iff, ← loadAll_eq] at hfails
    dsimp only
    cases hfeatures : (loadAll d files).result with
    | error e =>
      have hfailure := loadAll_ne_unwritable hfeatures
      exact
        { fails_iff := iff_of_true ⟨e, hfailure, rfl⟩
            (Or.inr ⟨files, hfiles, hfails.mp ⟨e, hfeatures⟩⟩)
          writes := fun h => absurd ⟨e, hfailure, rfl⟩ h }
    | ok features =>
      rw [hfeatures] at hfails
      constructor
      case fails_iff =>
        refine iff_of_false ?_ ?_
        · rintro ⟨e, hne, h⟩
          dsimp only at h
          split at h
          · cases h
          · exact hne (Except.error.inj h).symm
        · rintro (hnone | ⟨files', hfiles', hfile⟩)
          · exact hpaths hnone
          · obtain rfl := Except.ok.inj (hfiles.symm.trans hfiles')
            obtain ⟨e, he⟩ := hfails.mpr hfile
            cases he
      case writes =>
        intro _
        rw [loadAll_eq, mapM_eq_ok_iff] at hfeatures
        refine ⟨files, features, hfiles, hfeatures.imp fun _ _ => loaded_eq_ok_iff.mp, ?_⟩
        intro docs hdocs
        dsimp only
        rw [writeFeatures_eq hdocs]
        exact ⟨rfl, rfl⟩

/-- Documents that have been loaded are sound. -/
theorem sound_of_load {d : Disk} {path : Path} {f : Feature} (h : (load d path).result = .ok f) :
    f.Sound := by
  obtain ⟨full, t, g, -, -, hparse, rfl⟩ := Disk.load_eq_ok_iff.mp h
  obtain ⟨hsteps, hblocks⟩ := Feature.sound_of_parse hparse
  exact ⟨hsteps, hblocks⟩

/-- Features that have been loaded are the same if they have the same form. -/
theorem eq_of_hasForm_of_load {d : Disk} {path path' : Path} {f f' : Feature} {doc : Json}
    (h : (load d path).result = .ok f) (h' : (load d path').result = .ok f')
    (hform : f.HasForm doc) (hform' : f'.HasForm doc) : f = f' :=
  (sound_of_load h).eq_of_hasForm (sound_of_load h') hform hform'

/-! ## Writing instances -/

/-- Writing instances comes to nothing or to all instances of the scenarios that are asked for. -/
structure ListsAll (d : Disk) (file : Path) (filter : Option Regex) (json : Bool)
    (r : CommandResult) : Prop where
  /-- It fails exactly if there is no feature or none of its scenarios is asked for. -/
  fails_iff : (∃ e, r.outcome = .error e) ↔
    (∃ e, (load d file).result = .error e) ∨
      ∃ f, (load d file).result = .ok f ∧ ∀ s ∈ f.scenarios, isSelected filter s = false
  /-- Otherwise the instances of those that are are written, in the order of their
  declarations. -/
  writes : ∀ status, r.outcome = .ok status → status = .success ∧
    ∃ f reports, (load d file).result = .ok f ∧
      List.Forall₂ (fun s report => report.Covers f s) (f.scenarios.filter (isSelected filter))
        reports ∧
      r.written = Text.writeLines
        (if json then (Json.array (reports.map InstanceReport.form)).lines
          else reports.flatMap InstanceReport.lines)

/-- What is written about instances are lines, or the lines of a JSON document. -/
theorem instancesOutput_eq (json : Bool) (reports : List InstanceReport) :
    instancesOutput json reports = Text.writeLines
      (if json then (Json.array (reports.map InstanceReport.form)).lines
        else reports.flatMap InstanceReport.lines) := by
  rw [instancesOutput]
  cases json with
  | true => exact Json.endLine_pretty _
  | false =>
    refine Eq.trans ?_ (Text.writeLines_flatMap _ _).symm
    exact congrArg (List.flatMap · reports) (funext InstanceReport.write_eq)

/-- Every scenario is asked for without a filter, and with one those whose names match it. -/
theorem isSelected_iff {filter : Option Regex} {s : Scenario} :
    isSelected filter s = true ↔ ∀ r, filter = some r → r.isMatch s.name = true := by
  cases filter <;> simp [isSelected]

/-- A report holds all instances of its scenario. -/
theorem covers_of_report {f : Feature} {s : Scenario} {r : InstanceReport}
    (h : report f s = .ok r) : r.Covers f s := by
  obtain ⟨groups, hgroups⟩ := f.exists_groups_none s
  rw [report, hgroups] at h
  obtain rfl := Except.ok.inj h
  exact ⟨rfl, rfl, groups, Group.picks groups, hgroups, Group.pairwise_picks groups,
    fun pick => Group.mem_picks, instances_eq groups⟩

/-- Scenarios have reports, one for each. -/
theorem exists_instanceReports (f : Feature) (scenarios : List Scenario) :
    ∃ reports, instanceReports f scenarios = .ok reports ∧
      List.Forall₂ (fun s r => r.Covers f s) scenarios reports := by
  rw [instanceReports_eq]
  cases h : scenarios.mapM (report f) with
  | error e =>
    obtain ⟨s, -, e', hs⟩ := exists_mapM_eq_error_iff.mp ⟨e, h⟩
    obtain ⟨groups, hgroups⟩ := f.exists_groups_none s
    rw [report, hgroups] at hs
    cases hs
  | ok reports =>
    exact ⟨reports, rfl, (mapM_eq_ok_iff.mp h).imp fun _ _ => covers_of_report⟩

/-- Writing instances comes to nothing or to all instances of the scenarios that are asked for. -/
theorem listsAll_run (d : Disk) (file : Path) (filter : Option Regex) (json : Bool) :
    ListsAll d file filter json (run d (.params file filter json)) := by
  rw [run, runParams]
  cases hload : (load d file).result with
  | error e => constructor <;> simp [hload, CommandResult.failure]
  | ok f =>
    obtain ⟨reports, hreports, hcovers⟩ :=
      exists_instanceReports f (f.scenarios.filter (isSelected filter))
    dsimp only
    rw [hreports]
    constructor
    case fails_iff =>
      have hnone : (∀ s ∈ f.scenarios, isSelected filter s = false) ↔ reports = [] := by
        rw [← List.length_eq_zero_iff, ← hcovers.length_eq, List.length_eq_zero_iff,
          List.filter_eq_nil_iff]
        simp
      simp only [hload, Except.ok.injEq, exists_eq_left', hnone]
      cases reports <;> simp [CommandResult.failure]
    case writes =>
      intro status h
      cases reports with
      | nil => cases h
      | cons r rest =>
        obtain rfl := Except.ok.inj h
        exact ⟨rfl, f, r :: rest, hload, hcovers, instancesOutput_eq json _⟩

/-! ## All or nothing -/

/-- A command that is run step by step comes to the outcome and the output that it is said to
have, and if it fails there is no output, unless a path that is no text was to be written. Reading
documents comes to nothing or to one array with the features of all files, which have different
forms if they are different. Writing instances comes to nothing or to all instances of the scenarios
that are asked for. What is read are the files that paths stand for. -/
theorem output_is_whole (d : Disk) :
    (∀ command before, (steps d command).run before = (run d command).after before) ∧
    (∀ command e, (run d command).outcome = .error e →
      (run d command).written = [] ∨ e = .unwritable ∧ ∃ paths, command = .parse paths) ∧
    (∀ paths, ParsesAll d paths (run d (.parse paths))) ∧
    (∀ path path' f f' doc, (load d path).result = .ok f → (load d path').result = .ok f' →
      f.HasForm doc → f'.HasForm doc → f = f') ∧
    (∀ file filter json, ListsAll d file filter json (run d (.params file filter json))) ∧
    (∀ filter s, isSelected filter s = true ↔ ∀ r, filter = some r → r.isMatch s.name = true) ∧
    Sources d :=
  ⟨run_steps d, fun _ _ => written_eq_nil_of_error, parsesAll_run d,
    fun _ _ _ _ _ => eq_of_hasForm_of_load, listsAll_run d, fun _ _ => isSelected_iff, sources d⟩

/-- A feature with nothing but a name. -/
def nameOnly (name : Text) (path relativePath : Path) : Feature :=
  { Feature.empty path relativePath with name := some name }

/-- Two documents with nothing but names, one with an outline, and one that is invalid. -/
def documents : Disk :=
  ((((Disk.empty "/").put "a.feature" (.file (some "Feature: A\n"))).put
    "b.feature" (.file (some "Feature: B\n"))).put
    "c.feature" (.file (some
      "Scenario Outline: S\nGiven <n>\nExamples:\n| n |\n| 1 |\n| 2 |\n"))).put
    "d.feature" (.file (some "Given x\n"))

/-- Documents are written in the order in which they are asked for, and all instances of an outline
are listed. An invalid document may come last: nothing is written about those before it. -/
theorem output_is_whole_documents :
    (run documents (.parse ["b.feature", "a.feature"])).outcome = .ok .success ∧
      (run documents (.parse ["b.feature", "a.feature"])).written = Text.writeLines [
        "[",
        "  \x7b",
        "    \"name\": \"B\",",
        "    \"tags\": [],",
        "    \"description\": \"\",",
        "    \"path\": \"/b.feature\",",
        "    \"rel_path\": \"b.feature\",",
        "    \"line\": 1,",
        "    \"scenarios\": [],",
        "    \"background\": null,",
        "    \"examples\": []",
        "  \x7d,",
        "  \x7b",
        "    \"name\": \"A\",",
        "    \"tags\": [],",
        "    \"description\": \"\",",
        "    \"path\": \"/a.feature\",",
        "    \"rel_path\": \"a.feature\",",
        "    \"line\": 1,",
        "    \"scenarios\": [],",
        "    \"background\": null,",
        "    \"examples\": []",
        "  \x7d",
        "]"] ∧
      (∃ f reports, (load documents "c.feature").result = .ok f ∧
        List.Forall₂ (fun s report => InstanceReport.Covers f s report)
          (f.scenarios.filter (isSelected none)) reports ∧
        Text.writeLines (reports.flatMap InstanceReport.lines) =
          Text.writeLines ["S (line 1): 2 instance(s)", "  n=1", "  n=2"]) ∧
      (run documents (.parse ["b.feature", "a.feature", "d.feature"])).outcome = .error
        (.unloadable "d.feature" (.invalid ⟨.misplaced .strayStep "Given x", 1, "/d.feature"⟩)) ∧
      (run documents (.parse ["b.feature", "a.feature", "d.feature"])).written = [] := by
  obtain ⟨-, hnothing, hparse, -, hlist, -, -⟩ := output_is_whole documents
  have hb : (load documents "b.feature").result = .ok (nameOnly "B" "/b.feature" "b.feature") :=
    Disk.load_eq_ok_iff.mpr ⟨"/b.feature", "Feature: B\n", nameOnly "B" [] [], by decide +kernel,
      by decide +kernel, rfl, rfl⟩
  have ha : (load documents "a.feature").result = .ok (nameOnly "A" "/a.feature" "a.feature") :=
    Disk.load_eq_ok_iff.mpr ⟨"/a.feature", "Feature: A\n", nameOnly "A" [] [], by decide +kernel,
      by decide +kernel, rfl, rfl⟩
  have hfiles : documents.expandAll ["b.feature", "a.feature"] =
      .ok ["b.feature", "a.feature"] := by decide +kernel
  have houtcome : (run documents (.parse ["b.feature", "a.feature"])).outcome = .ok .success := by
    decide +kernel
  have hwritten : (run documents (.parse ["b.feature", "a.feature"])).written = Text.writeLines
      (Json.array [(nameOnly "B" [] []).form "/b.feature" "b.feature",
        (nameOnly "A" [] []).form "/a.feature" "a.feature"]).lines := by
    have hreads : ¬∃ e, e ≠ .unwritable ∧
        (run documents (.parse ["b.feature", "a.feature"])).outcome = .error e := by
      rintro ⟨e, -, he⟩
      cases houtcome.symm.trans he
    obtain ⟨files, features, hfound, hfeatures, hdocs⟩ := (hparse _).writes hreads
    obtain rfl := Except.ok.inj (hfiles.symm.trans hfound)
    obtain _ | ⟨hb', _ | ⟨ha', _ | _⟩⟩ := hfeatures
    obtain rfl := Except.ok.inj (hb.symm.trans hb')
    obtain rfl := Except.ok.inj (ha.symm.trans ha')
    exact (hdocs _ (.cons ⟨"/b.feature", "b.feature", rfl, rfl, rfl⟩
      (.cons ⟨"/a.feature", "a.feature", rfl, rfl, rfl⟩ .nil))).2
  obtain ⟨-, f, reports, hload, hcovers, hlines⟩ :=
    (hlist "c.feature" none false).writes .success (by decide +kernel)
  have hinvalid : (run documents (.parse ["b.feature", "a.feature", "d.feature"])).outcome = .error
      (.unloadable "d.feature" (.invalid ⟨.misplaced .strayStep "Given x", 1, "/d.feature"⟩)) := by
    decide +kernel
  refine ⟨houtcome, ?_, ⟨f, reports, hload, hcovers, ?_⟩, hinvalid, ?_⟩
  · rw [hwritten]
    decide +kernel
  · refine hlines.symm.trans ?_
    decide +kernel
  · exact (hnothing _ _ hinvalid).resolve_right fun h => nomatch h.1

/-- A device, a directory whose entries cannot be listed, and a document whose path is no text. -/
def oddities : Disk :=
  (((Disk.empty "/").put "dev/null" (.leaf false (.ok []))).put "sealed" (.tree false [])).put
    (0xFF :: ".feature") (.file (some "Feature: A\n"))

/-- Nothing is at one of the paths, or a file that they stand for has no feature. -/
def Lacking (d : Disk) (paths : List Path) : Prop :=
  (∃ p ∈ paths, ∀ node, d.node? p ≠ .ok node) ∨
    ∃ files, d.expandAll paths = .ok files ∧ ∃ file ∈ files, ∃ e, (load d file).result = .error e

/-- Reading documents fails although something is at the path, if this is neither a regular file nor
a directory, or a directory that cannot be listed. With a path that is no text it fails when
something has been written. -/
theorem parse_stops_part :
    (run oddities (.parse ["/dev/null"])).outcome = .error (.unexpanded (.missing "/dev/null")) ∧
      ¬Lacking oddities ["/dev/null"] ∧
      (run oddities (.parse ["/sealed"])).outcome =
        .error (.unexpanded (.unlisted "/sealed" "/sealed")) ∧
      ¬Lacking oddities ["/sealed"] ∧
      (run oddities (.parse [0xFF :: ".feature"])).outcome = .error .unwritable ∧
      (run oddities (.parse [0xFF :: ".feature"])).written ≠ [] := by
  have hthere : ∀ (path : Path) (node : Node) (e : ExpandError), oddities.node? path = .ok node →
      oddities.expandAll [path] = .error e → ¬Lacking oddities [path] := by
    rintro path node e hnode hexpand (⟨p, hp, hnothing⟩ | ⟨files, hfiles, -⟩)
    · obtain rfl := List.mem_singleton.mp hp
      exact hnothing node hnode
    · cases hexpand.symm.trans hfiles
  refine ⟨by decide +kernel, hthere _ (.leaf false (.ok [])) (.missing "/dev/null") rfl ?_,
    by decide +kernel, hthere _ (.tree false []) (.unlisted "/sealed" "/sealed") rfl ?_,
    by decide +kernel, by decide +kernel⟩
  · decide +kernel
  · decide +kernel

end Command

end FeatureDoc
