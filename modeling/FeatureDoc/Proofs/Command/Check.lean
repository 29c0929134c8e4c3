/-
# What a check reports

A check writes some lines about each file, in the order of the files, and then a summary. The
lines about a file and whether it counts as failed depend on nothing but that file.

* `Command.reports_iff` : the lines about a file are determined by what is loaded;
* `Command.isFailure_verdict_iff` : a file fails once, whatever is wrong with it;
* `Command.checkOutput_eq` : the lines about all files and the summary are written;
* `Command.runCheck_reports` : what a check writes and its status, for any paths.
-/
import FeatureDoc.Command.Basic
import FeatureDoc.Proofs.Disk.Discovery
import FeatureDoc.Proofs.Lists
import FeatureDoc.Proofs.Text.Phrase

namespace FeatureDoc

/-! ## The lines about a file -/

namespace Verdict

/-- The lines about something that is wrong with a file: the file, and an indent before each line
of the message. -/
def failureLines (path : Path) (message : Text) : List Text :=
  ("FAILED " ++ path.display) :: (Pieces.splitOn '\n' message).map ("    " ++ ·)

/-- An indented message is written as its lines with an indent before each. -/
theorem writeLines_indented (message : Text) :
    Text.writeLines ((Pieces.splitOn '\n' message).map ("    " ++ ·)) =
      endLine ("    " ++ indented message) := by
  induction message with
  | nil => rfl
  | cons c rest ih =>
    rw [Pieces.splitOn]
    split
    · rename_i hc
      rw [List.map_cons, Text.writeLines, List.flatMap_cons, ← Text.writeLines, ih]
      simp [endLine, indented, hc]
    · rename_i hc
      cases hpieces : Pieces.splitOn '\n' rest with
      | nil => exact absurd hpieces (Pieces.splitOn_ne_nil _ _)
      | cons piece more =>
        rw [hpieces] at ih
        simpa [Text.writeLines, endLine, indented, hc] using ih

/-- The entry for something that is wrong with a file consists of its lines. -/
theorem failureEntry_eq (path : Path) (message : Text) :
    failureEntry path message = Text.writeLines (failureLines path message) := by
  rw [failureLines, Text.writeLines, List.flatMap_cons, ← Text.writeLines, writeLines_indented]
  simp [failureEntry, endLine]

/-- The lines about a checked file. -/
def lines (path : Path) : Verdict → List Text
  | unloadable e => failureLines path e.message
  | uncovered first others => (first :: others).flatMap fun e => failureLines path e.message
  | passed n => ["ok " ++ path.display ++ " (" ++ Text.ofNat n ++ " scenario(s))"]

/-- What is written about a checked file are its lines. -/
theorem write_eq (path : Path) (v : Verdict) : v.write path = Text.writeLines (v.lines path) := by
  cases v with
  | unloadable e => exact failureEntry_eq path e.message
  | uncovered first others =>
    rw [lines, Text.writeLines_flatMap, write]
    exact congrArg (List.flatMap · _) (funext fun e => failureEntry_eq path e.message)
  | passed n => exact (List.append_nil _).symm

end Verdict

/-! ## Scenarios that are not covered -/

namespace Feature

variable {f : Feature} {s : Scenario}

/-- The scenarios of a feature that are not covered, in their order. -/
def uncovered (f : Feature) : List Scenario :=
  f.scenarios.filter fun s => f.validate s ≠ .ok ()

/-- Why a scenario is not covered, if it is not. -/
def coverageError? (f : Feature) (s : Scenario) : Option CoverageError :=
  match f.validate s with
  | .ok () => none
  | .error e => some e

/-- The error of a scenario is the one that its check ends in. -/
theorem coverageError?_eq_some_iff {e : CoverageError} :
    f.coverageError? s = some e ↔ f.validate s = .error e := by
  cases h : f.validate s <;> simp [coverageError?, h]

/-- A scenario has an error exactly if it is not covered. -/
theorem isSome_coverageError? : (f.coverageError? s).isSome = decide (f.validate s ≠ .ok ()) := by
  cases h : f.validate s <;> simp [coverageError?, h]

end Feature

namespace Verdict

variable {f : Feature}

/-- The errors of a feature are those of its scenarios that are not covered, one for one. -/
theorem forall₂_uncovered_iff {errors : List CoverageError} :
    List.Forall₂ (fun s e => f.validate s = .error e) f.uncovered errors ↔
      errors = uncoveredOf f := by
  have hall : List.Forall₂ (fun s e => f.validate s = .error e) f.uncovered (uncoveredOf f) := by
    have hmade := forall₂_filter_filterMap f.coverageError? f.scenarios
    simp only [Feature.coverageError?_eq_some_iff, Feature.isSome_coverageError?] at hmade
    exact hmade
  constructor
  · intro h
    exact List.right_unique_forall₂' (fun s e e' he he' => Except.error.inj (he.symm.trans he'))
      h hall
  · rintro rfl
    exact hall

/-- A feature has no errors exactly if all its scenarios are covered. -/
theorem uncoveredOf_eq_nil_iff :
    uncoveredOf f = [] ↔ ∀ s ∈ f.scenarios, f.validate s = .ok () := by
  rw [uncoveredOf, List.filterMap_eq_nil_iff]
  refine forall₂_congr fun s _ => ?_
  cases f.validate s <;> simp

/-- A feature with an error has a scenario that is not covered. -/
theorem uncoveredOf_ne_nil_iff :
    uncoveredOf f ≠ [] ↔ ∃ s ∈ f.scenarios, ∃ e, f.validate s = .error e := by
  rw [Ne, uncoveredOf_eq_nil_iff]
  constructor
  · intro hnot
    obtain ⟨s, hs⟩ := not_forall.mp hnot
    obtain ⟨hmem, hinvalid⟩ := Classical.not_imp.mp hs
    cases hvalidate : f.validate s with
    | ok u => exact absurd hvalidate hinvalid
    | error e => exact ⟨s, hmem, e, hvalidate⟩
  · rintro ⟨s, hmem, e, hvalidate⟩ hall
    cases (hall s hmem).symm.trans hvalidate

/-- The check of a feature has failed exactly if there is an error. -/
theorem isFailure_ofFeature : (ofFeature f).isFailure = true ↔ uncoveredOf f ≠ [] := by
  rw [ofFeature]
  split
  · rename_i hnone
    simp [isFailure, hnone]
  · rename_i first others hsome
    simp [isFailure, hsome]

end Verdict

namespace Command

/-! ## What a check has to say -/

/-- What a check has to say about the file at a path. -/
inductive Reports (d : Disk) (path : Path) : List Text → Prop where
  /-- There is a feature, and all its scenarios are covered. -/
  | passed {f : Feature} (hload : (load d path).result = .ok f)
      (hvalid : ∀ s ∈ f.scenarios, f.validate s = .ok ()) :
      Reports d path
        ["ok " ++ path.display ++ " (" ++ Text.ofNat f.scenarios.length ++ " scenario(s))"]
  /-- There is no feature. -/
  | unloadable {e : LoadError} (hload : (load d path).result = .error e) :
      Reports d path (Verdict.failureLines path e.message)
  /-- There is a feature, and each scenario that is not covered has an entry. -/
  | uncovered {f : Feature} {errors : List CoverageError} (hload : (load d path).result = .ok f)
      (hne : errors ≠ [])
      (herrors : List.Forall₂ (fun s e => f.validate s = .error e) f.uncovered errors) :
      Reports d path (errors.flatMap fun e => Verdict.failureLines path e.message)

/-- The lines about a file are determined by what is loaded. -/
theorem reports_iff {d : Disk} {path : Path} {ls : List Text} :
    Reports d path ls ↔ ls = (verdict d path).lines path := by
  constructor
  · intro h
    cases h with
    | passed hload hvalid =>
      rw [verdict, hload, Verdict.ofLoading, Verdict.ofFeature,
        Verdict.uncoveredOf_eq_nil_iff.mpr hvalid]
      rfl
    | unloadable hload =>
      rw [verdict, hload]
      rfl
    | @uncovered f errors hload hne herrors =>
      rw [verdict, hload, Verdict.ofLoading, Verdict.ofFeature,
        ← Verdict.forall₂_uncovered_iff.mp herrors]
      cases errors with
      | nil => exact absurd rfl hne
      | cons first others => rfl
  · rintro rfl
    cases hload : (load d path).result with
    | error e =>
      rw [verdict, hload]
      exact .unloadable hload
    | ok f =>
      rw [verdict, hload, Verdict.ofLoading, Verdict.ofFeature]
      have herrors := Verdict.forall₂_uncovered_iff.mpr (rfl : Verdict.uncoveredOf f = _)
      split
      · rename_i hnone
        exact .passed hload (Verdict.uncoveredOf_eq_nil_iff.mp hnone)
      · rename_i first others hsome
        rw [hsome] at herrors
        exact .uncovered hload (List.cons_ne_nil _ _) herrors

/-- Something is wrong with the file at a path: there is no feature, or a scenario of the feature
is not covered. -/
def Faulty (d : Disk) (path : Path) : Prop :=
  (∃ e, (load d path).result = .error e) ∨
    ∃ f, (load d path).result = .ok f ∧ ∃ s ∈ f.scenarios, ∃ e, f.validate s = .error e

/-- A file fails once, whatever is wrong with it. -/
theorem isFailure_verdict_iff {d : Disk} {path : Path} :
    (verdict d path).isFailure = true ↔ Faulty d path := by
  rw [verdict, Faulty]
  cases hload : (load d path).result with
  | error e => simp [Verdict.ofLoading, Verdict.isFailure]
  | ok f => simp [Verdict.ofLoading, Verdict.isFailure_ofFeature, Verdict.uncoveredOf_ne_nil_iff]

instance (d : Disk) : DecidablePred (Faulty d) := fun _ =>
  decidable_of_iff _ isFailure_verdict_iff

/-! ## Checking many files -/

/-- Paths that stand for files do so together. -/
theorem exists_expandAll {d : Disk} {paths : List Path} (h : ∀ p ∈ paths, d.Expands p) :
    ∃ files, d.expandAll paths = .ok files := by
  cases hfiles : d.expandAll paths with
  | ok files => exact ⟨files, rfl⟩
  | error e =>
    obtain ⟨p, hp, hnot⟩ := Disk.exists_expandAll_eq_error_iff.mp ⟨e, hfiles⟩
    exact absurd (h p hp) hnot

/-- The line that ends a check of some files. -/
def summaryLine (d : Disk) (files : List Path) : Text :=
  Text.ofNat files.length ++ " feature file(s) checked, " ++
    Text.ofNat (files.countP (Faulty d)) ++ " failed"

/-- The files that fail are those with which something is wrong. -/
theorem countP_isFailure (d : Disk) (files : List Path) :
    (files.map (verdict d)).countP Verdict.isFailure = files.countP (Faulty d) := by
  rw [List.countP_map]
  refine List.countP_congr fun path _ => ?_
  rw [decide_eq_true_iff, ← isFailure_verdict_iff]
  rfl

/-- The lines about all files and the summary are written. -/
theorem checkOutput_eq (d : Disk) (files : List Path) :
    checkOutput d files = Text.writeLines
      ((files.flatMap fun path => (verdict d path).lines path) ++ [summaryLine d files]) := by
  rw [checkOutput, countP_isFailure, Text.writeLines_append, Text.writeLines_flatMap]
  congr 1
  · exact congrArg (List.flatMap · files) (funext fun path => Verdict.write_eq path _)
  · simp [Text.writeLines, checkSummary, summaryLine, endLine]

/-- The status is good exactly if no verdict is a failure. -/
theorem statusOf_eq (verdicts : List Verdict) : statusOf verdicts =
    if verdicts.countP Verdict.isFailure = 0 then .success else .failed := by
  have hnone : verdicts.countP Verdict.isFailure = 0 ↔ verdicts.any Verdict.isFailure = false := by
    rw [List.countP_eq_zero, List.any_eq_false]
  rw [statusOf, if_congr hnone rfl rfl]
  cases verdicts.any Verdict.isFailure <;> rfl

/-- The status is bad exactly if some file fails. -/
theorem statusOf_verdicts (d : Disk) (files : List Path) :
    statusOf (files.map (verdict d)) =
      if 0 < files.countP (Faulty d) then .failed else .success := by
  rw [statusOf_eq, countP_isFailure, ← ite_not]
  exact if_congr Nat.pos_iff_ne_zero.symm rfl rfl

/-- A check of regular files and of directories that can be listed says about each file, in the
order of the files, what there is to say about it. This is settled by the file alone, whatever other
files are checked. The summary counts the files and those of them with which something is wrong,
and the status is bad exactly if there are such. -/
theorem runCheck_reports {d : Disk} (hcwd : Path.isAbsolute d.cwd = true) :
    ∃ entry : Path → List Text,
      (∀ path ls, Reports d path ls ↔ ls = entry path) ∧
      (∀ path isRegular content, d.node? path = .ok (.leaf isRegular content) →
        ∃ full relativePath, Path.isAbsolute full = true ∧
          Path.names full = Path.names (d.place path) ∧
          (load d path).result = Disk.loaded full relativePath content) ∧
      ∀ paths, (∀ p ∈ paths, d.Expands p) →
        ∃ files, d.expandAll paths = .ok files ∧
          (runCheck d paths).written =
            Text.writeLines (files.flatMap entry ++ [summaryLine d files]) ∧
          (runCheck d paths).outcome =
            .ok (if 0 < files.countP (Faulty d) then .failed else .success) := by
  refine ⟨fun path => (verdict d path).lines path, fun path ls => reports_iff,
    fun path isRegular content hleaf => Disk.load_split_of_leaf hcwd hleaf,
    fun paths hpaths => ?_⟩
  obtain ⟨files, hfiles⟩ := exists_expandAll hpaths
  refine ⟨files, hfiles, ?_, ?_⟩
  · rw [runCheck, hfiles]
    exact checkOutput_eq d files
  · rw [runCheck, hfiles]
    exact congrArg Except.ok (statusOf_verdicts d files)

/-- A directory with a feature, a feature with a scenario that is not covered, and a file that is
no document. -/
def mixed : Disk :=
  (((Disk.empty "/").put "d/a.feature" (.file (some "Feature: A\nScenario: S\nGiven x\n"))).put
    "d/b.feature" (.file (some
      "Feature: B\nScenario: S\nGiven <n>\nExamples:\n| m |\n| 1 |\n"))).put
    "d/c.feature" (.file (some "Given x\n"))

/-- A directory is checked, and one of the files in it for a second time. -/
theorem runCheck_reports_mixed :
    Path.isAbsolute mixed.cwd = true ∧
      (∀ p ∈ (["d", "d/a.feature"] : List Path), mixed.Expands p) ∧
      ∃ entry : Path → List Text,
        entry "d/a.feature" = ["ok d/a.feature (1 scenario(s))"] ∧
        entry "d/b.feature" = ["FAILED d/b.feature",
          "    scenario \"S\" in the feature \"/d/b.feature\" has invalid examples: set of step " ++
            "parameters [\"n\"] should match set of example values [\"m\"]"] ∧
        entry "d/c.feature" = ["FAILED d/c.feature",
          "    step definition outside of a Scenario or a Background", "    line number: 1",
          "    line: Given x", "    file: /d/c.feature"] ∧
        (runCheck mixed ["d", "d/a.feature"]).written = Text.writeLines
          (entry "d/a.feature" ++ entry "d/b.feature" ++ entry "d/c.feature" ++
            entry "d/a.feature" ++ (["4 feature file(s) checked, 2 failed"] : List Text)) ∧
        (runCheck mixed ["d", "d/a.feature"]).outcome = .ok .failed := by
  have hfiles : mixed.expandAll ["d", "d/a.feature"] =
      .ok ["d/a.feature", "d/b.feature", "d/c.feature", "d/a.feature"] := by decide +kernel
  have hpaths : ∀ p ∈ (["d", "d/a.feature"] : List Path), mixed.Expands p := by
    intro p hp
    by_contra hnot
    obtain ⟨e, he⟩ := Disk.exists_expandAll_eq_error_iff.mpr ⟨p, hp, hnot⟩
    rw [hfiles] at he
    cases he
  have hsummary : summaryLine mixed ["d/a.feature", "d/b.feature", "d/c.feature", "d/a.feature"] =
      "4 feature file(s) checked, 2 failed" := by decide +kernel
  have hfaulty : 0 < (["d/a.feature", "d/b.feature", "d/c.feature", "d/a.feature"] :
      List Path).countP (Faulty mixed) := by decide +kernel
  obtain ⟨entry, hentry, -, hrun⟩ := runCheck_reports (d := mixed) rfl
  have hlines : ∀ path ls, ls = (verdict mixed path).lines path → entry path = ls :=
    fun path ls h => ((hentry path ls).mp (reports_iff.mpr h)).symm
  obtain ⟨files, hfound, hwritten, houtcome⟩ := hrun _ hpaths
  obtain rfl := Except.ok.inj (hfiles.symm.trans hfound)
  refine ⟨rfl, hpaths, entry, hlines _ _ (by decide +kernel), hlines _ _ (by decide +kernel),
    hlines _ _ (by decide +kernel), ?_, ?_⟩
  · rw [hwritten, hsummary]
    simp only [List.flatMap_cons, List.flatMap_nil, List.append_assoc, List.append_nil]
  · rw [houtcome, if_pos hfaulty]

end Command

end FeatureDoc
