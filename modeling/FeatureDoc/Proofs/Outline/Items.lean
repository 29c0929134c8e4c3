/-
# The items of an outline

Reading the lines of an outline builds the feature of the outline up item by item. What is known
of the draft between two items is `Draft.Stands`; every item has a lemma that says how it goes on.

* `Draft.Stands.tagLine`, `Draft.Stands.featureLine`, `Draft.Stands.backgroundLine`,
  `Draft.Stands.scenarioLine` : the lines of declarations;
* `Draft.Fills` : where steps go, and `Draft.Stands.stepLine` : the line of a step.
-/
import FeatureDoc.Proofs.Outline.Basic
import FeatureDoc.Proofs.Reading.Taken

namespace FeatureDoc

/-! ## Between two items -/

/-- A draft between two items of an outline: the feature so far, the open scenario, what the last
line meant, and the tags for a declaration on the next line. -/
structure Draft.Stands (d : Draft) (f : Feature) (o : Option Text) (m : Option Draft.Mode)
    (ts : List Text) : Prop where
  feature : d.feature = f
  scenario : d.scenario = o
  mode : d.mode = m
  lastMode : d.lastMode = m
  tags : d.precedingTags = ts
  /-- No line describes the feature. -/
  prose : d.prose = []
  /-- Every step is at the beginning of its line. -/
  indent : ∀ s ∈ d.openStep, s.indent = 0
  capturing : d.capturing = false
  scenarioBlock : d.scenarioBlock = none
  featureBlock : d.featureBlock = none

namespace Draft

variable {d : Draft} {f : Feature} {o : Option Text} {m : Option Mode} {ts : List Text}
  (line : Nat)

/-- A line that is not indented does not continue a step that is not indented either. -/
theorem captures_eq_false {raw : Text} (hindent : ∀ s ∈ d.openStep, s.indent = 0)
    (hcapturing : d.capturing = false) (hraw : Text.indentWidth raw = 0) :
    d.captures raw = false := by
  unfold captures
  split
  · rfl
  · rename_i s hopen
    simp [hindent s hopen, hraw, hcapturing]

/-- Without open blocks there is none to close. -/
theorem closeBlocks_of_none (hscenario : d.scenarioBlock = none)
    (hfeature : d.featureBlock = none) : d.closeBlocks = .ok d := by
  have hfirst : d.closeScenarioBlock = .ok d := by rw [closeScenarioBlock, hscenario]
  have hsecond : d.closeFeatureBlock = .ok d := by rw [closeFeatureBlock, hfeature]
  rw [closeBlocks, hfirst]
  exact hsecond

/-- No scenario is without steps if all have some. -/
theorem stepless?_eq_none (h : ∀ s ∈ d.feature.scenarios, s.steps ≠ []) : d.stepless? = none := by
  unfold stepless?
  split
  · rename_i s hopen
    obtain ⟨name, -, hfound⟩ := Option.bind_eq_some_iff.mp hopen
    rw [if_neg (h s (Feature.mem_of_scenario? hfound))]
  · rfl

/-- A scenario is opened if the scenario before it has steps. -/
theorem declareScenario_of_stepless? {clean : Text} {c : Line.Classified} {closed : Draft}
    (hclosed : d.closeBlocks = .ok closed) (hsteps : closed.stepless? = none) :
    d.declareScenario line clean c =
      .ok (closed.openScenario (.declared c.text c.keyword line closed.precedingTags)) := by
  rw [declareScenario, hclosed]
  simp only [bind, Except.bind, hsteps]
  rfl

/-- The line before a declaration gives it no tags if it does not begin with their mark. -/
theorem precedingTags_eq_nil {raw : Text} (h : d.lastLine = some raw)
    (hraw : raw.head? ≠ some '@') : d.precedingTags = [] := by
  rw [precedingTags, h]
  exact if_neg hraw

/-- The line before a declaration gives it its tags. -/
theorem precedingTags_eq_parseTags {raw : Text} (h : d.lastLine = some raw)
    (hraw : raw.head? = some '@') : d.precedingTags = Line.parseTags raw := by
  rw [precedingTags, h]
  exact if_pos hraw

/-! ## Items -/

namespace Stands

/-- A line that is read as it stands is taken up by what it declares. -/
theorem feed_eq (h : d.Stands f o m ts) {raw : Text} (hraw : raw.IsWhole) :
    ∃ e : Draft, e.Stands f o m ts ∧ e.openStep = none ∧
      d.feed line raw = (e.declare line raw raw (Line.classify raw)).map
        fun d => { d with lastLine := some raw } := by
  have hfree := captures_eq_false h.indent h.capturing hraw.indent
  refine ⟨d.beforeTaking line raw, { h with indent := ?_, capturing := ?_ }, rfl, ?_⟩
  · rintro s ⟨⟩
  · simp [beforeTaking, release, note, h.capturing]
  · -- neither captured nor blank
    rw [feed, if_neg (by simp [hfree])]
    simp only [hraw.stripped]
    rw [if_neg fun hboth => hraw.ne_nil hboth.1]
    simp only [beforeTaking, hraw.stripped]
    cases declare _ line raw raw (Line.classify raw) <;> rfl

/-- A line of tags gives its tags to a declaration on the next line. -/
theorem tagLine (h : d.Stands f o m ts) {tags : List Text} (hne : tags ≠ [])
    (htags : ∀ tag ∈ tags, Line.IsTag tag) : ∃ d',
    d.feed line (Line.writeTags tags) = .ok d' ∧
      d'.Stands f o (some .tag) (Text.sortedSet tags) := by
  obtain ⟨e, he, hopen, hfeed⟩ := h.feed_eq line (Line.isWhole_writeTags hne htags)
  have hhead := Line.head?_writeTags hne
  -- the mark at the beginning decides, whatever the tags are
  have hkind : (Line.classify (Line.writeTags tags)).kind = some .tag := by
    cases hwrite : Line.writeTags tags with
    | nil => simp [hwrite] at hhead
    | cons c rest =>
      obtain rfl : c = '@' := by simpa [hwrite] using hhead
      rfl
  have hdeclare : e.declare line (Line.writeTags tags) (Line.writeTags tags)
      (Line.classify (Line.writeTags tags)) = .ok (e.enter .tag) := by
    rw [declare, hkind]
  rw [hfeed, hdeclare]
  refine ⟨_, rfl, { he with mode := rfl, lastMode := rfl, tags := ?_ }⟩
  rw [precedingTags_eq_parseTags rfl hhead, Line.parseTags_writeTags hne htags]

/-- The tags above a declaration are known when the declaration is read. -/
theorem tagLines (h : d.Stands f o m []) {tags : List Text}
    (htags : ∀ tag ∈ tags, Line.IsTag tag) : ∃ d' m',
    d.feedAll line (Outline.tagLines tags) = .ok d' ∧
      d'.Stands f o m' (Text.sortedSet tags) ∧ (m' = m ∨ m' = some .tag) := by
  unfold Outline.tagLines
  by_cases hnil : tags = []
  · rw [if_pos hnil, hnil]
    exact ⟨d, m, rfl, h, Or.inl rfl⟩
  · obtain ⟨d', hfeed, hstands⟩ := h.tagLine line hnil htags
    rw [if_neg hnil, feedAll, hfeed]
    exact ⟨d', _, rfl, hstands, Or.inr rfl⟩

/-- The line of the feature names it. -/
theorem featureLine (h : d.Stands f o m ts) (hmode : m = none ∨ m = some .tag)
    (hname : f.name = none) {name : Text} (hphrase : name.IsPhrase) : ∃ d',
    d.feed line ("Feature: " ++ name) = .ok d' ∧
      d'.Stands { f with name := some name, line, tags := ts } o (some .feature) [] := by
  have hlead : Text.OpensLine ("Feature: " : Text) := by decide
  obtain ⟨e, he, hopen, hfeed⟩ := h.feed_eq line (hphrase.isWhole_append hlead)
  have hclassify : Line.classify ("Feature: " ++ name) =
      ⟨some .feature, "Feature:", Text.trim name⟩ := rfl
  have hdeclare : e.declare line ("Feature: " ++ name) ("Feature: " ++ name)
      (Line.classify ("Feature: " ++ name)) = .ok { e.enter .feature with
        feature := { e.feature with name := some name, line, tags := e.precedingTags } } := by
    rw [hclassify, declare]
    simp only [takeFeatureLine, he.lastMode, he.feature, hname, hphrase.trimmed]
    rcases hmode with rfl | rfl <;> rfl
  rw [hfeed, hdeclare]
  refine ⟨_, rfl, { he with
    feature := ?_, mode := rfl, lastMode := rfl, tags := precedingTags_eq_nil rfl ?_ }⟩
  · simp only [he.feature, he.tags]
  · show some 'F' ≠ some '@'
    decide

/-- The line of the background declares it. -/
theorem backgroundLine (h : d.Stands f o m ts) : ∃ d',
    d.feed line "Background:".toList = .ok d' ∧
      d'.Stands { f with background := some (.declared line) } o (some .background) [] := by
  have hwhole : Text.IsWhole "Background:".toList :=
    ⟨by decide, by decide, by decide, by decide⟩
  obtain ⟨e, he, hopen, hfeed⟩ := h.feed_eq line hwhole
  obtain ⟨journal, heq⟩ := declareBackground_eq (e.enter .background) line
  have hdeclare : e.declare line "Background:".toList "Background:".toList
      (Line.classify "Background:".toList) = .ok ((e.enter .background).declareBackground line) :=
    rfl
  rw [hfeed, hdeclare, heq]
  refine ⟨_, rfl, { he with
    feature := ?_, mode := rfl, lastMode := rfl, tags := precedingTags_eq_nil rfl (by decide) }⟩
  show { e.feature with background := some (Background.declared line) } = _
  rw [he.feature]

/-- The line of a scenario of a new name opens it, if the scenarios before it have steps. -/
theorem scenarioLine (h : d.Stands f o m ts) {name : Text} (hphrase : name.IsPhrase)
    (hsteps : ∀ s ∈ f.scenarios, s.steps ≠ []) (hnew : name ∉ f.scenarios.map Scenario.name) :
    ∃ d', d.feed line ("Scenario: " ++ name) = .ok d' ∧
      d'.Stands { f with scenarios := f.scenarios ++ [.declared name "Scenario:" line ts] }
        (some name) (some .scenario) [] := by
  have hlead : Text.OpensLine ("Scenario: " : Text) := by decide
  obtain ⟨e, he, hopen, hfeed⟩ := h.feed_eq line (hphrase.isWhole_append hlead)
  have hclassify : Line.classify ("Scenario: " ++ name) =
      ⟨some .scenario, "Scenario:", Text.trim name⟩ := rfl
  have hdeclare : e.declare line ("Scenario: " ++ name) ("Scenario: " ++ name)
      (Line.classify ("Scenario: " ++ name)) =
        .ok ((e.enter .scenario).openScenario (.declared name "Scenario:" line ts)) := by
    have hclosed : (e.enter .scenario).closeBlocks = .ok (e.enter .scenario) :=
      closeBlocks_of_none he.scenarioBlock he.featureBlock
    -- the scenario before it is complete
    have hstepless : (e.enter .scenario).stepless? = none :=
      stepless?_eq_none (d := e.enter .scenario) (he.feature.symm ▸ hsteps)
    have htags : (e.enter .scenario).precedingTags = ts := he.tags
    rw [hclassify, declare, declareScenario_of_stepless? line hclosed hstepless, htags,
      hphrase.trimmed]
  obtain ⟨journal, heq⟩ := openScenario_eq (e.enter .scenario) (.declared name "Scenario:" line ts)
  rw [hfeed, hdeclare, heq]
  refine ⟨_, rfl, { he with
    feature := ?_, scenario := rfl, mode := rfl, lastMode := rfl
    tags := precedingTags_eq_nil rfl ?_ }⟩
  · have hfeature : (e.enter .scenario).feature = f := he.feature
    have hput : Feature.putScenario (.declared name "Scenario:" line ts) f.scenarios =
        f.scenarios ++ [.declared name "Scenario:" line ts] := Feature.putScenario_of_notMem hnew
    simp only [hfeature, hput]
  · show some 'S' ≠ some '@'
    decide

end Stands

/-! ## Steps -/

/-- The steps of one owner: `fill steps` is the feature in which the owner has these steps, while
the given scenario is open. -/
structure Fills (owner : Owner) (o : Option Text) (fill : List Step → Feature) : Prop where
  stepOwner : ∀ {d : Draft} {steps}, d.feature = fill steps → d.scenario = o →
    d.stepOwner = owner
  steps? : ∀ {d : Draft} {steps}, d.feature = fill steps → d.scenario = o →
    d.steps? owner = some steps
  updateSteps : ∀ {d : Draft} {steps}, d.feature = fill steps → d.scenario = o →
    ∀ change, (d.updateSteps change owner).feature = fill (change steps)

/-- Before a scenario is open, steps fill the background. -/
theorem fills_background (f : Feature) (b : Background) :
    Fills .background none fun steps => { f with background := some { b with steps } } where
  stepOwner := by
    intro d steps hfeature hscenario
    simp [Draft.stepOwner, hfeature, hscenario]
  steps? := by
    intro d steps hfeature hscenario
    simp [Draft.steps?, hfeature]
  updateSteps := by
    intro d steps hfeature hscenario change
    simp [Draft.updateSteps, hfeature, Feature.updateBackground]

/-- Once a scenario of a new name is open, steps fill this scenario. -/
theorem fills_scenario (f : Feature) (s : Scenario)
    (hnew : s.name ∉ f.scenarios.map Scenario.name) : Fills .scenario (some s.name) fun steps =>
      { f with scenarios := f.scenarios ++ [{ s with steps }] } where
  stepOwner := by
    intro d steps hfeature hscenario
    simp [Draft.stepOwner, hscenario]
  steps? := by
    intro d steps hfeature hscenario
    have hlast : d.feature.scenarios = f.scenarios ++ [{ s with steps }] := by rw [hfeature]
    rw [Draft.steps?, openScenario?, hscenario, Option.bind_some,
      Feature.scenario?_of_eq_concat hlast hnew, Option.map_some]
  updateSteps := by
    intro d steps hfeature hscenario change
    -- the open scenario is the last one, and the only one of its name
    have hlast : d.feature.scenarios = f.scenarios ++ [{ s with steps }] := by rw [hfeature]
    have hupdate := Feature.updateScenario_of_eq_concat hlast hnew
      fun s => { s with steps := change s.steps }
    simp only [Draft.updateSteps, updateOpenScenario, hscenario]
    exact hupdate.trans (by rw [hfeature])

/-- Whether a step of the background may follow a line with this meaning. -/
def Mode.admits (m : Option Mode) : Prop :=
  m = some .background ∨ ∃ type, m = some (.step type) ∧ type ≠ .outcome

/-- What takes a step of the background up. -/
theorem takesBackgroundStep_of_admits (h : Mode.admits d.lastMode) :
    d.takesBackgroundStep = true := by
  unfold takesBackgroundStep
  rcases h with h | ⟨type, h, hne⟩
  · rw [h]
  · rw [h]
    simpa using hne

/-- A step that causes no fault joins the steps of its owner. -/
theorem declareStep_of_steps? {owner : Owner} {steps : List Step} {raw clean : Text}
    {type : StepType} {c : Line.Classified} {step : Step} (howner : d.stepOwner = owner)
    (hsteps : d.steps? owner = some steps)
    (hguard : d.scenario = none → Mode.admits d.lastMode)
    (hstep : Step.ofLine type c.keyword c.text (Text.indentWidth raw) line = .ok step) :
    d.declareStep line raw clean type c = .ok ((d.enter (.step type)).appendStep owner step) := by
  have hfree : ¬(d.scenario = none ∧ ¬d.takesBackgroundStep = true) := fun hboth =>
    hboth.2 (takesBackgroundStep_of_admits (hguard hboth.1))
  have howner' : (d.enter (.step type)).stepOwner = owner := howner
  have hsteps' : (d.enter (.step type)).steps? owner = some steps := hsteps
  rw [declareStep, if_neg hfree, addStep, hstep]
  simp only [howner', hsteps']

end Draft

namespace Outline

/-- The step on a line is what its line declares. -/
theorem WrittenStep.ofLine_eq {s : WrittenStep} {scanned : Param.Scanned} {line : Nat}
    (h : Param.scan s.text = .ok scanned) :
    Step.ofLine s.type s.keyword s.text 0 line = .ok (s.read line) := by
  rw [Step.ofLine, h, WrittenStep.read, h, ← Param.canonical_of_scan h]
  rfl

/-- Where steps are written, steps are read. -/
theorem readSteps_ne_nil {line : Nat} {steps : List WrittenStep} (h : steps ≠ []) :
    readSteps line steps ≠ [] := by
  cases steps with
  | nil => exact absurd rfl h
  | cons s rest => exact List.cons_ne_nil _ _

/-- The line of a step may begin with its keyword. -/
theorem Opening.opensLine_keyword (type : StepType) (opening : Opening) :
    Text.OpensLine (opening.keyword type ++ [' ']) := by
  cases opening <;> cases type <;> decide

/-- The keyword of a step says what its line declares. -/
theorem Opening.classify_keyword_append (type : StepType) (opening : Opening) (text : Text) :
    Line.classify (opening.keyword type ++ ' ' :: text) =
      ⟨some (if opening = .own then .step type else .continuation), opening.keyword type,
        Text.trim text⟩ := by
  cases opening <;> cases type <;> rfl

/-- No keyword of a step is the mark of tags. -/
theorem Opening.head?_keyword (type : StepType) (opening : Opening) (text : Text) :
    (opening.keyword type ++ ' ' :: text).head? ≠ some '@' := by
  cases opening <;> cases type <;> exact fun h => absurd (Option.some.inj h) (by decide)

/-- The line of a step is read as it stands. -/
theorem WrittenStep.isWhole_write {s : WrittenStep} (hphrase : s.text.IsPhrase) :
    s.write.IsWhole := by
  have hwrite : s.write = s.keyword ++ [' '] ++ s.text := by simp [write]
  rw [hwrite]
  exact hphrase.isWhole_append (s.opening.opensLine_keyword s.type)

/-- The line of a step declares a step of its type, or one that goes on with the type before. -/
theorem WrittenStep.classify_write {s : WrittenStep} (hphrase : s.text.IsPhrase) :
    Line.classify s.write = ⟨some (if s.opening = .own then .step s.type else .continuation),
      s.keyword, s.text⟩ := by
  rw [write, keyword, Opening.classify_keyword_append, hphrase.trimmed]

end Outline

namespace Draft

variable {d : Draft} {f : Feature} {o : Option Text} {m : Option Mode} {ts : List Text}
  (line : Nat) {owner : Owner} {fill : List Step → Feature}

open Outline

/-- The line of a step adds it to the steps of the owner. -/
theorem Stands.stepLine {done : List Step} (hfills : Fills owner o fill)
    (h : d.Stands (fill done) o m ts) {s : WrittenStep} (hphrase : s.text.IsPhrase)
    (hscan : ∃ scanned, Param.scan s.text = .ok scanned)
    (hopening : s.opening = .own ∨ m = some (.step s.type)) (hguard : o = none → Mode.admits m) :
    ∃ d', d.feed line s.write = .ok d' ∧
      d'.Stands (fill (done ++ [s.read line])) o (some (.step s.type)) [] := by
  have hwhole := WrittenStep.isWhole_write hphrase
  obtain ⟨e, he, hopen, hfeed⟩ := h.feed_eq line hwhole
  obtain ⟨scanned, hscan⟩ := hscan
  have hstep : Step.ofLine s.type (Line.classify s.write).keyword (Line.classify s.write).text
      (Text.indentWidth s.write) line = .ok (s.read line) := by
    rw [WrittenStep.classify_write hphrase, hwhole.indent]
    exact WrittenStep.ofLine_eq hscan
  have hadded : e.declareStep line s.write s.write s.type (Line.classify s.write) =
      .ok ((e.enter (.step s.type)).appendStep owner (s.read line)) := by
    refine declareStep_of_steps? line (hfills.stepOwner he.feature he.scenario)
      (hfills.steps? he.feature he.scenario) (fun hnone => ?_) hstep
    rw [he.lastMode]
    exact hguard (he.scenario.symm.trans hnone)
  have hdeclare : e.declare line s.write s.write (Line.classify s.write) =
      .ok ((e.enter (.step s.type)).appendStep owner (s.read line)) := by
    have hkind := congrArg Line.Classified.kind (WrittenStep.classify_write hphrase)
    rw [← hadded, declare, hkind]
    -- a line that goes on with the type before takes the type from the mode
    by_cases hown : s.opening = .own
    · rw [if_pos hown]
    · have hmode := he.mode.trans (hopening.resolve_left hown)
      rw [if_neg hown]
      simp only [hmode]
  have hadd := hfills.updateSteps (d := e.enter (.step s.type)) he.feature he.scenario
    (· ++ [s.read line])
  rw [hfeed, hdeclare]
  refine ⟨_, rfl, { he with
    feature := hadd, mode := rfl, lastMode := rfl, indent := ?_, capturing := rfl
    tags := precedingTags_eq_nil rfl (s.opening.head?_keyword s.type s.text) }⟩
  rintro open? ⟨rfl⟩
  rfl

end Draft

end FeatureDoc
