/-
# Two drafts that read the same lines

From the declaration of a scenario on, what a line does to the scenarios declared since then does
not depend on what stands above the declaration. This module compares two drafts: one has read
some lines from the declaration on, and the other one has read the same lines behind others. As
long as the second one meets no fault, neither does the first one, and the scenarios declared
since then are the same but for the numbers of their lines.

The scenario on the very first line is an exception, since its tags are on the line before it.

* `Scenario.Follows`, `Draft.Follows` : the relation between the scenarios and the drafts;
* `Draft.Follows.taken`, `Draft.Follows.feed` : one line keeps it;
* `Draft.Follows.feedAll`, `Draft.Follows.finish` : so do all lines and the end of the document.
-/
import FeatureDoc.Proofs.Reading.Declaration

namespace FeatureDoc

/-! ## Lines further down -/

/-- The step whose line is `n` lines further down. -/
def Step.moved (n : Nat) (s : Step) : Step := { s with line := s.line + n }

/-- The block that is opened `n` lines further down. -/
def ExampleBlock.moved (n : Nat) (b : ExampleBlock) : ExampleBlock := { b with line := b.line + n }

/-- The scenario with all its lines `n` lines further down. -/
def Scenario.moved (n : Nat) (s : Scenario) : Scenario :=
  { s with line := s.line + n, steps := s.steps.map (Step.moved n)
           examples := s.examples.map (ExampleBlock.moved n) }

/-- The declaration that is `n` lines further down. -/
def Declaration.moved (n : Nat) (x : Declaration) : Declaration := { x with line := x.line + n }

/-- The second scenario is the first one `n` lines further down, but for the tags of a scenario
that is declared on the first line. -/
def Scenario.Follows (n : Nat) (r s : Scenario) : Prop :=
  ∃ tags, s = { r.moved n with tags } ∧ (r.line ≠ 1 → tags = r.tags)

/-- Scenarios that follow each other have the same name. -/
theorem Scenario.Follows.name_eq {n : Nat} {r s : Scenario} (h : r.Follows n s) :
    s.name = r.name := by
  obtain ⟨tags, rfl, -⟩ := h
  rfl

/-- Neither has steps, or both have. -/
theorem Scenario.Follows.steps_eq_nil_iff {n : Nat} {r s : Scenario} (h : r.Follows n s) :
    s.steps = [] ↔ r.steps = [] := by
  obtain ⟨tags, rfl, -⟩ := h
  exact List.map_eq_nil_iff

/-- The next step is the same, further down. -/
theorem Scenario.Follows.withSteps {n : Nat} {r s : Scenario} (h : r.Follows n s)
    {change change' : List Step → List Step}
    (hchange : ∀ steps, change' (steps.map (Step.moved n)) = (change steps).map (Step.moved n)) :
    Scenario.Follows n { r with steps := change r.steps } { s with steps := change' s.steps } := by
  obtain ⟨tags, rfl, htags⟩ := h
  refine ⟨tags, ?_, htags⟩
  simp only [moved, hchange]

namespace Draft

/-- The second draft has read the same lines as the first one since a scenario was declared,
`n` lines further down. -/
structure Follows (n : Nat) (e d : Draft) : Prop where
  /-- The same scenario is open. -/
  scenario : ∃ name r, e.scenario = some name ∧ d.scenario = some name ∧
    e.feature.scenario? name = some r
  /-- The next plain line means the same. -/
  mode : d.mode = e.mode
  lastMode : d.lastMode = e.lastMode
  /-- The same lines continue the last step, which is one of the open scenario. -/
  openStep : d.openStep = e.openStep
  owner : ∀ s, e.openStep = some s → s.owner = .scenario
  capturing : d.capturing = e.capturing
  /-- The same tags precede a declaration. -/
  lastLine : d.lastLine = e.lastLine
  /-- The same block is being read. -/
  scenarioBlock : d.scenarioBlock = e.scenarioBlock.map (ExampleBlock.moved n)
  featureBlock : d.featureBlock = none ∧ e.featureBlock = none
  /-- The feature may be named where it may be named further down. -/
  named : d.feature.name = none → e.feature.name = none
  /-- The scenarios of the first draft are found in the second one. -/
  found : ∀ name r, e.feature.scenario? name = some r →
    ∃ s, d.feature.scenario? name = some s ∧ r.Follows n s

namespace Follows

variable {n line : Nat} {d d' e : Draft} {raw clean : Text} {c : Line.Classified}

/-! ## The open scenario -/

/-- The open scenarios follow each other. -/
theorem openScenario? (h : e.Follows n d) :
    ∃ r s, e.openScenario? = some r ∧ d.openScenario? = some s ∧ r.Follows n s := by
  obtain ⟨name, r, he, hd, hr⟩ := h.scenario
  obtain ⟨s, hs, hfollows⟩ := h.found name r hr
  refine ⟨r, s, ?_, ?_, hfollows⟩
  · rw [Draft.openScenario?, he, Option.bind_some, hr]
  · rw [Draft.openScenario?, hd, Option.bind_some, hs]

/-- A scenario is open in both drafts. -/
theorem scenario_ne_none (h : e.Follows n d) : e.scenario ≠ none ∧ d.scenario ≠ none := by
  obtain ⟨name, r, he, hd, -⟩ := h.scenario
  simp [he, hd]

/-- Changes of the features that leave the scenarios as they are. -/
theorem withFeature (h : e.Follows n d) {f g : Feature} (hnamed : g.name = none → f.name = none)
    (hf : f.scenarios = e.feature.scenarios) (hg : g.scenarios = d.feature.scenarios) :
    Follows n { e with feature := f } { d with feature := g } := by
  have hfound : ∀ name, f.scenario? name = e.feature.scenario? name := fun name => by
    rw [Feature.scenario?, hf, Feature.scenario?]
  have hfound' : ∀ name, g.scenario? name = d.feature.scenario? name := fun name => by
    rw [Feature.scenario?, hg, Feature.scenario?]
  obtain ⟨name, r, he, hd, hr⟩ := h.scenario
  refine { h with scenario := ⟨name, r, he, hd, (hfound name).trans hr⟩, named := hnamed,
                  found := fun other t ht => ?_ }
  obtain ⟨s, hs, hfollows⟩ := h.found other t ((hfound other).symm.trans ht)
  exact ⟨s, (hfound' other).trans hs, hfollows⟩

/-- A change of the open scenario that keeps its name. -/
theorem updateOpenScenario (h : e.Follows n d) {change change' : Scenario → Scenario}
    (hchange : ∀ r s, r.Follows n s → (change r).Follows n (change' s))
    (hname : ∀ r, (change r).name = r.name) (hname' : ∀ s, (change' s).name = s.name) :
    (e.updateOpenScenario change).Follows n (d.updateOpenScenario change') := by
  obtain ⟨name, r, he, hd, hr⟩ := h.scenario
  have hefeature : e.updateOpenScenario change =
      { e with feature := e.feature.updateScenario name change } := by
    simp [Draft.updateOpenScenario, he]
  have hdfeature : d.updateOpenScenario change' =
      { d with feature := d.feature.updateScenario name change' } := by
    simp [Draft.updateOpenScenario, hd]
  rw [hefeature, hdfeature]
  refine { h with scenario := ⟨name, change r, he, hd, ?_⟩, found := ?_ }
  · show (e.feature.updateScenario name change).scenario? name = _
    rw [Feature.scenario?_updateScenario_self _ _ hname, hr]
    rfl
  · intro other t ht
    by_cases hother : other = name
    · subst hother
      obtain ⟨s, hs, hfollows⟩ := h.found other r hr
      have hself : (e.feature.updateScenario other change).scenario? other = some (change r) := by
        rw [Feature.scenario?_updateScenario_self _ _ hname, hr]
        rfl
      obtain rfl : change r = t := Option.some.inj (hself.symm.trans ht)
      refine ⟨change' s, ?_, hchange r s hfollows⟩
      show (d.feature.updateScenario other change').scenario? other = _
      rw [Feature.scenario?_updateScenario_self _ _ hname', hs]
      rfl
    · have hsame : (e.feature.updateScenario name change).scenario? other = some t := ht
      rw [Feature.scenario?_updateScenario_of_ne _ hother hname] at hsame
      obtain ⟨s, hs, hfollows⟩ := h.found other t hsame
      refine ⟨s, ?_, hfollows⟩
      show (d.feature.updateScenario name change').scenario? other = _
      rw [Feature.scenario?_updateScenario_of_ne _ hother hname', hs]

/-- A change of the steps of the open scenario. -/
theorem updateSteps (h : e.Follows n d) (change change' : List Step → List Step)
    (hchange : ∀ steps, change' (steps.map (Step.moved n)) = (change steps).map (Step.moved n)) :
    (e.updateSteps change .scenario).Follows n (d.updateSteps change' .scenario) :=
  h.updateOpenScenario (fun _ _ hrs => hrs.withSteps hchange) (fun _ => rfl) fun _ => rfl

/-! ## Lines that continue a step -/

/-- The same lines continue the last step. -/
theorem captures (h : e.Follows n d) (raw : Text) : d.captures raw = e.captures raw := by
  rw [Draft.captures, Draft.captures, h.openStep, h.capturing]

/-- A captured line joins the last step. -/
theorem capture (h : e.Follows n d) (raw : Text) : (e.capture raw).Follows n (d.capture raw) := by
  unfold Draft.capture
  rw [h.openStep]
  cases hopen : e.openStep with
  | none => exact h
  | some s =>
    have hlast : ∀ steps : List Step,
        changeLast (Step.addLine · raw) (steps.map (Step.moved n)) =
          (changeLast (Step.addLine · raw) steps).map (Step.moved n) := changeLast_map fun _ => rfl
    simp only [h.owner s hopen]
    exact { h.updateSteps _ _ hlast with capturing := rfl }

/-- No further line continues the step. -/
theorem release (h : e.Follows n d) : e.release.Follows n d.release :=
  { h with
    openStep := rfl
    owner := fun s hs => nomatch hs
    capturing := by simp only [Draft.release, h.openStep, h.capturing] }

/-! ## Example blocks -/

/-- Closing the block of the open scenario. -/
theorem closeScenarioBlock (h : e.Follows n d) (hclosed : d.closeScenarioBlock = .ok d') :
    ∃ e', e.closeScenarioBlock = .ok e' ∧ e'.Follows n d' := by
  have hremaining : remaining d.scenarioBlock =
      (remaining e.scenarioBlock).map (ExampleBlock.moved n) := by
    rw [h.scenarioBlock, remaining, remaining]
    cases e.scenarioBlock with
    | none => rfl
    | some b =>
      have hcells : (b.moved n).isEmpty = b.isEmpty := rfl
      simp only [Option.map_some, Option.filter_some, hcells]
      split <;> rfl
  obtain ⟨heven, journal, rfl⟩ := closeScenarioBlock_eq_ok hclosed
  rw [hremaining] at heven ⊢
  obtain ⟨e', he'⟩ := exists_closeScenarioBlock (d := e) fun b hb =>
    heven (b.moved n) (List.mem_map_of_mem hb)
  obtain ⟨-, journal', rfl⟩ := closeScenarioBlock_eq_ok he'
  have hexamples : Follows n
      (e.updateOpenScenario (withExamples (remaining e.scenarioBlock)))
      (d.updateOpenScenario (withExamples
        ((remaining e.scenarioBlock).map (ExampleBlock.moved n)))) := by
    refine h.updateOpenScenario ?_ (fun _ => rfl) fun _ => rfl
    rintro r s ⟨tags, rfl, htags⟩
    refine ⟨tags, ?_, htags⟩
    simp [withExamples, Scenario.moved]
  exact ⟨_, he', { hexamples with scenarioBlock := rfl }⟩

/-- Closing both blocks. -/
theorem closeBlocks (h : e.Follows n d) (hclosed : d.closeBlocks = .ok d') :
    ∃ e', e.closeBlocks = .ok e' ∧ e'.Follows n d' := by
  obtain ⟨d₁, hscenario, hfeature⟩ := exists_of_bind_eq_ok hclosed
  obtain ⟨e₁, he₁, h₁⟩ := h.closeScenarioBlock hscenario
  -- no block of the feature is being read
  have hnone : ∀ d : Draft, d.featureBlock = none → d.closeFeatureBlock = .ok d := by
    intro d hd
    rw [closeFeatureBlock, hd]
  rw [hnone d₁ h₁.featureBlock.1] at hfeature
  obtain rfl := Except.ok.inj hfeature
  refine ⟨e₁, ?_, h₁⟩
  rw [Draft.closeBlocks, he₁]
  exact hnone e₁ h₁.featureBlock.2

/-- Opening a block. -/
theorem declareExamples (h : e.Follows n d) {orientation : Orientation}
    (hopened : d.declareExamples (line + n) orientation = .ok d') :
    ∃ e', e.declareExamples line orientation = .ok e' ∧ e'.Follows n d' := by
  obtain ⟨name, r, he, hd, -⟩ := h.scenario
  rcases declareExamples_eq_ok hopened with ⟨_, d₁, -, hclosed, rfl⟩ | ⟨_, hnone, -, -⟩
  · obtain ⟨e₁, he₁, h₁⟩ := h.closeScenarioBlock hclosed
    refine ⟨{ e₁ with scenarioBlock := some (.opened orientation line),
                      mode := some (fillMode orientation) }, ?_, ?_⟩
    · rw [Draft.declareExamples, he]
      simp only [he₁]
      rfl
    · exact { h₁ with mode := rfl, scenarioBlock := rfl }
  · rw [hd] at hnone
    cases hnone

/-- The block that lines are added to is the same, further down. -/
theorem openBlock? (h : e.Follows n d) :
    d.openBlock? = e.openBlock?.map (ExampleBlock.moved n) := by
  obtain ⟨name, r, he, hd, -⟩ := h.scenario
  rw [Draft.openBlock?, Draft.openBlock?, he, hd]
  exact h.scenarioBlock

/-- A change of the block that lines are added to, whatever the number of its line. -/
theorem updateBlock (h : e.Follows n d) (change : ExampleBlock → ExampleBlock)
    (hchange : ∀ b, change (b.moved n) = (change b).moved n) :
    (e.updateBlock change).Follows n (d.updateBlock change) := by
  obtain ⟨name, r, he, hd, -⟩ := h.scenario
  have hcomp : change ∘ ExampleBlock.moved n = ExampleBlock.moved n ∘ change := funext hchange
  have heblock : e.updateBlock change = { e with scenarioBlock := e.scenarioBlock.map change } := by
    rw [Draft.updateBlock, he]
  have hdblock : d.updateBlock change = { d with scenarioBlock := d.scenarioBlock.map change } := by
    rw [Draft.updateBlock, hd]
  rw [heblock, hdblock]
  refine { h with scenarioBlock := ?_ }
  simp only [h.scenarioBlock, Option.map_map, hcomp]

/-- The header of a block. -/
theorem addHeader (h : e.Follows n d) (text : Text) :
    (e.addHeader text).Follows n (d.addHeader text) :=
  { h.updateBlock (fun b => { b with names := (Line.splitCells text).filter (· ≠ []) })
      fun _ => rfl with mode := rfl }

/-- A row of a block. -/
theorem addRow (h : e.Follows n d) {text : Text} (hadded : d.addRow (line + n) text = .ok d') :
    ∃ e', e.addRow line text = .ok e' ∧ e'.Follows n d' := by
  obtain ⟨hlength, rfl⟩ := addRow_eq_ok hadded
  refine ⟨_, ?_, h.updateBlock (fun b =>
    { b with values := b.values ++ [Line.splitCells text] }) fun _ => rfl⟩
  rw [h.openBlock?] at hlength
  rw [Draft.addRow]
  cases hopen : e.openBlock? with
  | none => simp only [updateBlock_of_none hopen]
  | some b =>
    have hlength' : (Line.splitCells text).length = b.names.length :=
      hlength (b.moved n) (by simp [hopen])
    simp only [hlength', ne_eq, not_true_eq_false, if_false]

/-- A column of a block. -/
theorem addColumn (h : e.Follows n d) {text : Text}
    (hadded : d.addColumn (line + n) text = .ok d') :
    ∃ e', e.addColumn line text = .ok e' ∧ e'.Follows n d' := by
  obtain ⟨name, cells, hcells, hnew, rfl⟩ := addColumn_eq_ok hadded
  refine ⟨_, ?_, h.updateBlock (fun b =>
    { b with names := b.names ++ [name], values := b.values ++ [cells] }) fun _ => rfl⟩
  rw [h.openBlock?] at hnew
  rw [Draft.addColumn, hcells]
  cases hopen : e.openBlock? with
  | none => simp only [updateBlock_of_none hopen]
  | some b =>
    have hnew' : name ∉ b.names := hnew (b.moved n) (by simp [hopen])
    simp only [if_neg hnew']

/-! ## Declarations -/

/-- The open scenario has steps in both drafts or in none. -/
theorem stepless? (h : e.Follows n d) (hsteps : d.stepless? = none) : e.stepless? = none := by
  obtain ⟨r, s, hr, hs, hfollows⟩ := h.openScenario?
  unfold Draft.stepless? at hsteps ⊢
  rw [hs] at hsteps
  rw [hr]
  simpa [hfollows.steps_eq_nil_iff] using hsteps

/-- Opening a scenario. -/
theorem openScenario (h : e.Follows n d) {r s : Scenario} (hrs : r.Follows n s) :
    (e.openScenario r).Follows n (d.openScenario s) := by
  obtain ⟨journal, he⟩ := openScenario_eq e r
  obtain ⟨journal', hd⟩ := openScenario_eq d s
  rw [he, hd]
  refine { h with
    scenario := ⟨r.name, r, rfl, congrArg some hrs.name_eq, ?_⟩, found := fun name t ht => ?_ }
  · exact Feature.scenario?_putScenario_self e.feature r
  · by_cases hname : name = r.name
    · subst hname
      have hself := Feature.scenario?_putScenario_self e.feature r
      obtain rfl : r = t := Option.some.inj (hself.symm.trans ht)
      refine ⟨s, ?_, hrs⟩
      have hself' := Feature.scenario?_putScenario_self d.feature s
      rwa [hrs.name_eq] at hself'
    · have hsame := (Feature.scenario?_putScenario_of_ne e.feature hname).symm.trans ht
      obtain ⟨s', hs', hfollows⟩ := h.found name t hsame
      refine ⟨s', ?_, hfollows⟩
      have hname' : name ≠ s.name := by rwa [hrs.name_eq]
      exact (Feature.scenario?_putScenario_of_ne d.feature hname').trans hs'

/-- Declaring a background. -/
theorem declareBackground (h : e.Follows n d) :
    (e.declareBackground line).Follows n (d.declareBackground (line + n)) := by
  obtain ⟨journal, he⟩ := declareBackground_eq e line
  obtain ⟨journal', hd⟩ := declareBackground_eq d (line + n)
  rw [he, hd]
  exact { h.withFeature (f := { e.feature with background := some (.declared line) })
    (g := { d.feature with background := some (.declared (line + n)) }) h.named rfl rfl with }

/-- A step, which joins those of the open scenario. -/
theorem declareStep (h : e.Follows n d) {type : StepType}
    (hadded : d.declareStep (line + n) raw clean type c = .ok d') :
    ∃ e', e.declareStep line raw clean type c = .ok e' ∧ e'.Follows n d' := by
  obtain ⟨-, step, steps, hstep, -, rfl⟩ := declareStep_eq_ok hadded
  obtain ⟨he, hd⟩ := h.scenario_ne_none
  have howner : e.stepOwner = .scenario := if_neg fun hboth => he hboth.2
  have howner' : d.stepOwner = .scenario := if_neg fun hboth => hd hboth.2
  obtain ⟨r, -, hr, -, -⟩ := h.openScenario?
  -- the line is scanned in the same way
  obtain ⟨scanned, hscanned, hmade⟩ := exists_of_bind_eq_ok hstep
  obtain rfl := Except.ok.inj hmade
  have hstep' : Step.ofLine type c.keyword c.text (Text.indentWidth raw) line = .ok
      { type, keyword := c.keyword, text := c.text, lines := [], canonical := scanned.canonical,
        indent := Text.indentWidth raw, constants := scanned.constants,
        aliases := scanned.aliases, line } := by
    rw [Step.ofLine, hscanned]
    rfl
  have hsteps : e.steps? e.stepOwner = some r.steps := by
    rw [howner, steps?, hr]
    rfl
  refine ⟨_, declareStep_of_scenario he hstep' hsteps, ?_⟩
  rw [howner, howner']
  have henter : (e.enter (.step type)).Follows n (d.enter (.step type)) :=
    { h with mode := rfl, lastMode := rfl }
  refine { henter.updateSteps (· ++ [_]) (· ++ [_]) ?_ with
    openStep := rfl, owner := ?_, capturing := rfl }
  · intro steps
    rw [List.map_append]
    rfl
  · rintro s ⟨⟩
    rfl

/-! ## Every line -/

/-- A line that is taken up in one of the ways is taken up in the same way further up. -/
theorem taken (h : e.Follows n d) (htaken : Taken d (line + n) raw clean c d') :
    ∃ e', Taken e line raw clean c e' ∧ e'.Follows n d' := by
  have henter : ∀ mode, (e.enter mode).Follows n (d.enter mode) := fun mode =>
    { h with mode := rfl, lastMode := rfl }
  cases htaken with
  | named hlast hname hkind =>
    have htags : d.precedingTags = e.precedingTags := by
      rw [precedingTags, precedingTags, h.lastLine]
    rw [h.mode] at hkind
    rw [h.lastMode] at hlast
    exact ⟨_, .named hlast (h.named hname) hkind,
      { (henter .feature).withFeature
        (f := { e.feature with name := some c.text, line, tags := e.precedingTags })
        (g := { d.feature with name := some c.text, line := line + n, tags := d.precedingTags })
        (fun hnone => nomatch hnone) rfl rfl with }⟩
  | prose hlast hkind =>
    rw [h.mode] at hkind
    rw [h.lastMode] at hlast
    exact ⟨_, .prose hlast hkind, { henter .feature with }⟩
  | scenario closed hkind hclosed hsteps =>
    obtain ⟨e₁, he₁, h₁⟩ := (henter .scenario).closeBlocks hclosed
    refine ⟨_, .scenario e₁ hkind he₁ (h₁.stepless? hsteps), h₁.openScenario ?_⟩
    have htags : closed.precedingTags = e₁.precedingTags := by
      rw [precedingTags, precedingTags, h₁.lastLine]
    exact ⟨closed.precedingTags, rfl, fun _ => htags⟩
  | scenarioProse hkind hmode =>
    refine ⟨_, .scenarioProse hkind (h.mode ▸ hmode), (henter .scenario).updateOpenScenario ?_
      (fun _ => rfl) fun _ => rfl⟩
    rintro r s ⟨tags, rfl, htags⟩
    exact ⟨tags, rfl, htags⟩
  | background hkind => exact ⟨_, .background hkind, (henter .background).declareBackground⟩
  | backgroundProse hkind hmode =>
    refine ⟨_, .backgroundProse hkind (h.mode ▸ hmode), ?_⟩
    exact (henter .background).withFeature h.named rfl rfl
  | examples _ hkind hopened =>
    obtain ⟨e', he', h'⟩ := (henter .examples).declareExamples hopened
    exact ⟨e', .examples e' (h.mode ▸ hkind) he', h'⟩
  | verticalExamples _ hkind hopened =>
    obtain ⟨e', he', h'⟩ := (henter .verticalExamples).declareExamples hopened
    exact ⟨e', .verticalExamples e' (h.mode ▸ hkind) he', h'⟩
  | header hkind hmode =>
    exact ⟨_, .header hkind (h.mode ▸ hmode), (henter .header).addHeader c.text⟩
  | row _ hkind hmode hadded =>
    obtain ⟨e', he', h'⟩ := (henter .row).addRow hadded
    exact ⟨e', .row e' hkind (h.mode ▸ hmode) he', h'⟩
  | column _ hkind hmode hadded =>
    obtain ⟨e', he', h'⟩ := (henter .column).addColumn hadded
    exact ⟨e', .column e' hkind (h.mode ▸ hmode) he', h'⟩
  | step type _ hkind hadded =>
    obtain ⟨e', he', h'⟩ := h.declareStep hadded
    exact ⟨e', .step type e' (h.mode ▸ hkind) he', h'⟩
  | tag hkind => exact ⟨_, .tag (h.mode ▸ hkind), henter .tag⟩
  | nothing hkind hmode =>
    exact ⟨_, .nothing hkind (h.mode ▸ hmode), { h with lastMode := rfl }⟩

/-- Any line that causes no fault causes none further up, and the drafts go on to follow each
other. -/
theorem feed (h : e.Follows n d) (hfeed : d.feed (line + n) raw = .ok d') :
    ∃ e', e.feed line raw = .ok e' ∧ e'.Follows n d' := by
  unfold Draft.feed at hfeed ⊢
  rw [h.captures raw] at hfeed
  split at hfeed
  · obtain rfl := Except.ok.inj hfeed
    exact ⟨_, if_pos ‹_›, h.capture raw⟩
  · rw [if_neg ‹_›]
    simp only at hfeed ⊢
    rw [h.release.lastMode] at hfeed
    split at hfeed
    · obtain rfl := Except.ok.inj hfeed
      exact ⟨_, if_pos ‹_›, h.release⟩
    · rw [if_neg ‹_›]
      obtain ⟨d₁, hdeclare, hlast⟩ := exists_of_bind_eq_ok hfeed
      obtain rfl := Except.ok.inj hlast
      have hnote : ∀ level message message',
          (e.release.note level message).Follows n (d.release.note level message') :=
        fun _ _ _ => { h.release with }
      obtain ⟨e₁, htaken, h₁⟩ := (hnote _ _ _).taken (taken_of_declare hdeclare)
      refine ⟨{ e₁ with lastLine := some (Line.stripComment raw) }, ?_, { h₁ with lastLine := rfl }⟩
      rw [htaken.declare_eq]
      rfl

/-- So do any lines. -/
theorem feedAll {ls : List Text} (h : e.Follows n d) (hfeed : d.feedAll (line + n) ls = .ok d') :
    ∃ e', e.feedAll line ls = .ok e' ∧ e'.Follows n d' := by
  induction ls generalizing line d e with
  | nil =>
    obtain rfl := Except.ok.inj hfeed
    exact ⟨e, rfl, h⟩
  | cons raw rest ih =>
    obtain ⟨d₁, hfirst, hrest⟩ := exists_of_bind_eq_ok hfeed
    obtain ⟨e₁, he₁, h₁⟩ := h.feed hfirst
    rw [Nat.add_right_comm] at hrest
    obtain ⟨e', he', h'⟩ := ih h₁ hrest
    refine ⟨e', ?_, h'⟩
    rw [Draft.feedAll, he₁]
    exact he'

/-- The lines make the same declarations. -/
theorem declarations {ls : List Text} (h : e.Follows n d)
    (hfeed : d.feedAll (line + n) ls = .ok d') :
    d.declarations (line + n) ls = (e.declarations line ls).map (Declaration.moved n) := by
  induction ls generalizing line d e with
  | nil => rfl
  | cons raw rest ih =>
    obtain ⟨d₁, hfirst, hrest⟩ := exists_of_bind_eq_ok hfeed
    obtain ⟨e₁, he₁, h₁⟩ := h.feed hfirst
    have hdeclared : d.declaredBy (line + n) raw =
        (e.declaredBy line raw).map (Declaration.moved n) := by
      rw [declaredBy, declaredBy, h.captures raw]
      split
      · rfl
      · rw [List.map_map]
        rfl
    rw [Draft.declarations, Draft.declarations, hfirst, he₁, List.map_append, hdeclared]
    rw [Nat.add_right_comm] at hrest ⊢
    exact congrArg _ (ih h₁ hrest)

/-- At the end of the document the scenarios of the first draft are found in the second one. -/
theorem finish (h : e.Follows n d) (hfinish : d.finish = .ok d') :
    ∃ e', e.finish = .ok e' ∧ e'.Follows n d' := by
  obtain ⟨d₁, hclosed, hend⟩ := exists_of_bind_eq_ok hfinish
  have hopen : Follows n { e with openStep := none } { d with openStep := none } :=
    { h with openStep := rfl, owner := fun s hs => nomatch hs }
  obtain ⟨e₁, he₁, h₁⟩ := hopen.closeBlocks hclosed
  obtain rfl := Except.ok.inj hend
  have hfeature := h₁.withFeature
    (f := { e₁.feature with description := Text.trim (Text.unlines e₁.prose) })
    (g := { d₁.feature with description := Text.trim (Text.unlines d₁.prose) }) h₁.named rfl rfl
  obtain ⟨e', he', journal, rfl⟩ : ∃ e', e.finish = .ok e' ∧ ∃ journal, e' = { e₁ with
      feature := { e₁.feature with description := Text.trim (Text.unlines e₁.prose) }
      journal } := by
    rw [Draft.finish, he₁]
    exact ⟨_, rfl, _, rfl⟩
  exact ⟨_, he', { hfeature with }⟩

end Follows

end Draft

end FeatureDoc
