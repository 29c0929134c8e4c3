/-
# The drafts that reading reaches

Taking up a line looks for things in the draft: the open scenario, the background, the block that
rows are added to, the last step. This module says which of them are there in which mode, for
every draft that any lines lead to.

* `Draft.Valid` : the invariant, and `Draft.valid_of_feed` : every line keeps it;
* `Draft.Backed` : whatever the next line looks for is there.
-/
import FeatureDoc.Proofs.Reading.Taken

namespace FeatureDoc

namespace Draft

/-! ## The invariant -/

/-- Scenario and background are there whenever the mode relies on them. -/
structure Grounded (d : Draft) : Prop where
  /-- The open scenario is one of the feature. -/
  scenario : ∀ name, d.scenario = some name → name ∈ d.feature.scenarios.map Scenario.name
  /-- A scenario is described only while one is open. -/
  scenarioMode : d.mode = some .scenario → d.scenario ≠ none
  /-- A background is described only when there is one. -/
  backgroundMode : d.mode = some .background → d.feature.background ≠ none
  /-- The declaration and the steps of a background leave one behind. -/
  lastBackground : d.scenario = none →
    (d.lastMode = some .background ∨ ∃ type, d.lastMode = some (.step type)) →
      d.feature.background ≠ none

/-- The blocks that are being read fit the open scenario and the mode. -/
structure BlocksFit (d : Draft) : Prop where
  /-- A scenario has a block only while it is open. -/
  scenarioBlock : d.scenarioBlock ≠ none → d.scenario ≠ none
  /-- The feature has a block only while no scenario is open. -/
  featureBlock : d.featureBlock ≠ none → d.scenario = none
  /-- Headers and rows go into a horizontal block. -/
  horizontal : d.mode = some .header ∨ d.mode = some .row →
    ∃ b, d.openBlock? = some b ∧ b.orientation = .horizontal
  /-- Columns go into a vertical block. -/
  vertical : d.mode = some .column → ∃ b, d.openBlock? = some b ∧ b.orientation = .vertical

/-- The step that lines may continue is there. -/
structure StepFits (d : Draft) : Prop where
  /-- The open step is the last one of a list of steps. -/
  openStep : ∀ s, d.openStep = some s → ∃ steps, d.steps? s.owner = some steps ∧ steps ≠ []
  /-- Without an open step no line has continued it. -/
  capturing : d.openStep = none → d.capturing = false

/-- What holds of every draft that lines lead to. -/
structure Valid (d : Draft) : Prop extends Grounded d, BlocksFit d, StepFits d

/-- The draft before the first line is valid. -/
theorem valid_start (path relativePath : Path) : (start path relativePath).Valid := by
  constructor <;> constructor <;> simp [start]

/-! ## Scenario and background -/

/-- Modes that rely neither on a scenario nor on a background. -/
def Mode.isFree : Mode → Bool
  | .scenario | .background | .step _ => false
  | _ => true

/-- A line keeps scenario and background if it leaves them there and leads to a free mode. -/
theorem Grounded.of_isFree {d d' : Draft} {last next : Mode} (hd : d.Grounded)
    (hlast : d'.lastMode = some last) (hnext : d'.mode = some next)
    (hlastFree : last.isFree = true) (hnextFree : next.isFree = true)
    (hscenario : d'.scenario = d.scenario)
    (hnames : d'.feature.scenarios.map Scenario.name = d.feature.scenarios.map Scenario.name) :
    d'.Grounded where
  scenario := by
    rw [hscenario, hnames]
    exact hd.scenario
  scenarioMode := by
    rw [hnext]
    rintro ⟨⟩
    cases hnextFree
  backgroundMode := by
    rw [hnext]
    rintro ⟨⟩
    cases hnextFree
  lastBackground := by
    rw [hlast]
    rintro - (⟨⟨⟩⟩ | ⟨type, ⟨⟩⟩)
    · cases hlastFree
    · cases hlastFree

/-- Opening a block keeps scenario and background. -/
theorem Grounded.declareExamples {d d' : Draft} {line : Nat} {orientation : Orientation}
    (hd : d.Grounded) {mode : Mode} (hmode : d.lastMode = some mode) (hfree : mode.isFree = true)
    (h : d.declareExamples line orientation = .ok d') : d'.Grounded := by
  have hnext : (fillMode orientation).isFree = true := by cases orientation <;> rfl
  obtain ⟨own, shared, _, _, journal, rfl⟩ := exists_of_declareExamples h
  exact hd.of_isFree hmode rfl hfree hnext rfl (map_name_updateOpenScenario d _ fun _ => rfl)

/-- The scenario that is opened is one of the feature. -/
theorem Grounded.openScenario {d : Draft} (s : Scenario) (hmode : d.mode = some .scenario) :
    (d.openScenario s).Grounded := by
  obtain ⟨journal, heq⟩ := openScenario_eq d s
  rw [heq]
  refine ⟨?_, fun _ => by simp, by simp [hmode], fun hnone => by simp at hnone⟩
  intro name hname
  obtain rfl : s.name = name := Option.some.inj hname
  show s.name ∈ (Feature.putScenario s d.feature.scenarios).map Scenario.name
  rw [Feature.map_name_putScenario]
  split
  · assumption
  · exact List.mem_append_right _ (List.mem_singleton.mpr rfl)

/-- After the declaration of a background there is one. -/
theorem Grounded.declareBackground {d : Draft} (hd : d.Grounded) (line : Nat) :
    ((d.enter .background).declareBackground line).Grounded := by
  obtain ⟨journal, heq⟩ := declareBackground_eq (d.enter .background) line
  rw [heq]
  exact ⟨hd.scenario, by simp [enter], by simp, by simp⟩

/-- Without a scenario a step stands only after the declaration or a step of a background. -/
theorem lastMode_of_takesBackgroundStep {d : Draft} (h : d.takesBackgroundStep = true) :
    d.lastMode = some .background ∨ ∃ type, d.lastMode = some (.step type) := by
  unfold takesBackgroundStep at h
  split at h
  · exact Or.inl ‹_›
  · exact Or.inr ⟨_, ‹_›⟩
  · cases h

/-- A step is added where there is a scenario or a background. -/
theorem Grounded.declareStep {d d' : Draft} {line : Nat} {raw clean : Text} {type : StepType}
    {c : Line.Classified} (hd : d.Grounded) (h : d.declareStep line raw clean type c = .ok d') :
    d'.Grounded := by
  obtain ⟨hguard, step, steps, -, -, rfl⟩ := declareStep_eq_ok h
  refine ⟨?_, by rintro ⟨⟩, by rintro ⟨⟩, ?_⟩
  · intro name hname
    rw [map_name_appendStep]
    exact hd.scenario name hname
  · intro hnone _
    -- the step has passed the guard, so that it follows the background or one of its steps
    rw [Ne, appendStep, background_updateSteps_eq_none]
    have htakes := hguard.resolve_left (fun hscenario => hscenario hnone)
    exact hd.lastBackground hnone (lastMode_of_takesBackgroundStep htakes)

/-- Changing the block keeps scenario and background. -/
theorem Grounded.updateBlock {d : Draft} (hd : d.Grounded)
    (change : ExampleBlock → ExampleBlock) : (d.updateBlock change).Grounded := by
  unfold Draft.updateBlock
  split <;> exact { hd with }

/-- Every line that is taken up keeps scenario and background. -/
theorem Taken.grounded {d d' : Draft} {line : Nat} {raw clean : Text} {c : Line.Classified}
    (h : Taken d line raw clean c d') (hd : d.Grounded) : d'.Grounded := by
  -- many lines touch neither scenarios nor background
  have hfree : ∀ mode : Mode, mode.isFree = true → (d.enter mode).Grounded := fun mode hmode =>
    hd.of_isFree rfl rfl hmode hmode rfl rfl
  cases h with
  | named => exact hd.of_isFree rfl rfl rfl rfl rfl rfl
  | prose => exact hd.of_isFree rfl rfl rfl rfl rfl rfl
  | scenario closed _ hclosed _ =>
    obtain ⟨journal, rfl⟩ := closeBlocks_eq_ok hclosed
    exact Grounded.openScenario _ rfl
  | scenarioProse _ hmode =>
    refine ⟨?_, fun _ => hd.scenarioMode hmode, by rintro ⟨⟩, ?_⟩
    · intro name hname
      rw [map_name_describeScenario]
      exact hd.scenario name hname
    · intro hnone
      exact absurd hnone (hd.scenarioMode hmode)
  | background => exact hd.declareBackground line
  | backgroundProse _ hmode =>
    have hkept : ((d.enter .background).describeBackground clean).feature.background ≠ none := by
      simpa [enter, describeBackground, Feature.updateBackground] using hd.backgroundMode hmode
    exact ⟨hd.scenario, by rintro ⟨⟩, fun _ => hkept, fun _ _ => hkept⟩
  | examples _ _ hopened => exact (hfree .examples rfl).declareExamples rfl rfl hopened
  | verticalExamples _ _ hopened =>
    exact (hfree .verticalExamples rfl).declareExamples rfl rfl hopened
  | header =>
    exact (hfree .header rfl).of_isFree (updateBlock_lastMode _ _) rfl rfl rfl
      (updateBlock_scenario _ _) (congrArg _ (congrArg _ (updateBlock_feature _ _)))
  | row _ _ _ hadded =>
    obtain ⟨-, rfl⟩ := addRow_eq_ok hadded
    exact (hfree .row rfl).updateBlock _
  | column _ _ _ hadded =>
    obtain ⟨name, cells, -, -, rfl⟩ := addColumn_eq_ok hadded
    exact (hfree .column rfl).updateBlock _
  | step _ _ _ hadded => exact hd.declareStep hadded
  | tag => exact hfree .tag rfl
  | nothing _ hmode =>
    refine ⟨hd.scenario, ?_, ?_, ?_⟩ <;> simp [hmode]

/-! ## Blocks -/

/-- Modes in which plain lines fill a block. -/
def Mode.fills : Mode → Bool
  | .header | .row | .column => true
  | _ => false

/-- A block that is being read is the one that lines are added to. -/
theorem BlocksFit.openBlock?_of_block {d : Draft} (hd : d.BlocksFit) {b : ExampleBlock}
    (h : d.scenarioBlock = some b ∨ d.featureBlock = some b) : d.openBlock? = some b := by
  unfold openBlock?
  rcases h with h | h
  · obtain ⟨name, hname⟩ := Option.ne_none_iff_exists'.mp (hd.scenarioBlock (by simp [h]))
    rw [hname]
    exact h
  · rw [hd.featureBlock (by simp [h])]
    exact h

/-- Blocks that stay as they are fit any mode that fills none. -/
theorem BlocksFit.of_not_fills {d d' : Draft} (hd : d.BlocksFit)
    (hscenario : d'.scenario = d.scenario) (hscenarioBlock : d'.scenarioBlock = d.scenarioBlock)
    (hfeatureBlock : d'.featureBlock = d.featureBlock)
    (hmode : ∀ mode ∈ d'.mode, mode.fills = false) : d'.BlocksFit where
  scenarioBlock := by
    rw [hscenario, hscenarioBlock]
    exact hd.scenarioBlock
  featureBlock := by
    rw [hscenario, hfeatureBlock]
    exact hd.featureBlock
  horizontal := by
    rintro (h | h) <;> cases hmode _ h
  vertical := by
    intro h
    cases hmode _ h

/-- A block fits if it is the one that the mode lets lines fill. -/
theorem BlocksFit.of_opened {d : Draft} {b : ExampleBlock} (hopen : d.openBlock? = some b)
    (hmode : d.mode = some (fillMode b.orientation))
    (hscenarioBlock : d.scenarioBlock ≠ none → d.scenario ≠ none)
    (hfeatureBlock : d.featureBlock ≠ none → d.scenario = none) : d.BlocksFit := by
  refine ⟨hscenarioBlock, hfeatureBlock, ?_, ?_⟩
  · intro hfills
    refine ⟨b, hopen, ?_⟩
    cases horientation : b.orientation with
    | horizontal => rfl
    | vertical => simp [hmode, horientation, fillMode] at hfills
  · intro hfills
    refine ⟨b, hopen, ?_⟩
    cases horientation : b.orientation with
    | horizontal => simp [hmode, horientation, fillMode] at hfills
    | vertical => rfl

/-- A block that is opened is the one that the next lines fill. -/
theorem BlocksFit.declareExamples {d d' : Draft} {line : Nat} {orientation : Orientation}
    (hd : d.BlocksFit) (h : d.declareExamples line orientation = .ok d') : d'.BlocksFit := by
  have hopen := openBlock?_of_declareExamples h
  rcases declareExamples_eq_ok h with
    ⟨name, closed, hscenario, hclosed, rfl⟩ | ⟨closed, hnone, hclosed, rfl⟩
  · obtain ⟨-, journal, rfl⟩ := closeScenarioBlock_eq_ok hclosed
    refine of_opened hopen rfl ?_ hd.featureBlock
    simp [updateOpenScenario, hscenario]
  · obtain ⟨-, journal, rfl⟩ := closeFeatureBlock_eq_ok hclosed
    exact of_opened hopen rfl hd.scenarioBlock fun _ => hnone

/-- A block that is filled keeps its orientation. -/
theorem BlocksFit.updateBlock {d : Draft} (hd : d.BlocksFit)
    (change : ExampleBlock → ExampleBlock) (hchange : ∀ b, (change b).orientation = b.orientation) :
    (d.updateBlock change).BlocksFit where
  scenarioBlock := by
    rw [updateBlock_scenario, Ne, updateBlock_scenarioBlock_eq_none]
    exact hd.scenarioBlock
  featureBlock := by
    rw [updateBlock_scenario, Ne, updateBlock_featureBlock_eq_none]
    exact hd.featureBlock
  horizontal := by
    rw [updateBlock_mode, openBlock?_updateBlock]
    intro hmode
    obtain ⟨b, hopen, horientation⟩ := hd.horizontal hmode
    exact ⟨change b, by rw [hopen]; rfl, (hchange b).trans horientation⟩
  vertical := by
    rw [updateBlock_mode, openBlock?_updateBlock]
    intro hmode
    obtain ⟨b, hopen, horientation⟩ := hd.vertical hmode
    exact ⟨change b, by rw [hopen]; rfl, (hchange b).trans horientation⟩

/-- Every line that is taken up leaves blocks that fit. -/
theorem Taken.blocksFit {d d' : Draft} {line : Nat} {raw clean : Text} {c : Line.Classified}
    (h : Taken d line raw clean c d') (hd : d.BlocksFit) : d'.BlocksFit := by
  -- a line that is taken up in the mode of the line before it leaves the same blocks to fill
  have henter : ∀ mode : Mode, d.mode = some mode → (d.enter mode).BlocksFit := by
    intro mode hmode
    refine ⟨hd.scenarioBlock, hd.featureBlock, ?_, ?_⟩
    · exact fun h => hd.horizontal (h.imp hmode.trans hmode.trans)
    · exact fun h => hd.vertical (hmode.trans h)
  -- a line in a mode that fills no block may leave any blocks behind
  have hfree : ∀ mode : Mode, mode.fills = false → (d.enter mode).BlocksFit := by
    intro mode hmode
    refine hd.of_not_fills rfl rfl rfl ?_
    rintro _ ⟨⟩
    exact hmode
  cases h with
  | named => exact hd.of_not_fills rfl rfl rfl (by rintro _ ⟨⟩; rfl)
  | prose => exact hd.of_not_fills rfl rfl rfl (by rintro _ ⟨⟩; rfl)
  | scenario closed _ hclosed _ =>
    obtain ⟨journal, rfl⟩ := closeBlocks_eq_ok hclosed
    obtain ⟨journal', hopened⟩ := openScenario_eq _ _
    rw [hopened]
    exact ⟨fun h => absurd rfl h, fun h => absurd rfl h, by rintro (⟨⟨⟩⟩ | ⟨⟨⟩⟩), by rintro ⟨⟩⟩
  | scenarioProse => exact hd.of_not_fills rfl rfl rfl (by rintro _ ⟨⟩; rfl)
  | background =>
    obtain ⟨journal, hdeclared⟩ := declareBackground_eq (d.enter .background) line
    rw [hdeclared]
    exact hd.of_not_fills rfl rfl rfl (by rintro _ ⟨⟩; rfl)
  | backgroundProse => exact hd.of_not_fills rfl rfl rfl (by rintro _ ⟨⟩; rfl)
  | examples _ _ hopened => exact (hfree .examples rfl).declareExamples hopened
  | verticalExamples _ _ hopened => exact (hfree .verticalExamples rfl).declareExamples hopened
  | header _ hmode =>
    -- the mode goes on from the header to the rows, which fill the same block
    have hfilled := (henter .header hmode).updateBlock
      (fun b => { b with names := (Line.splitCells c.text).filter (· ≠ []) }) fun _ => rfl
    refine ⟨hfilled.scenarioBlock, hfilled.featureBlock, ?_, by rintro ⟨⟩⟩
    intro _
    exact hfilled.horizontal (Or.inl (updateBlock_mode _ _))
  | row _ _ hmode hadded =>
    obtain ⟨-, rfl⟩ := addRow_eq_ok hadded
    exact (henter .row hmode).updateBlock _ fun _ => rfl
  | column _ _ hmode hadded =>
    obtain ⟨name, cells, -, -, rfl⟩ := addColumn_eq_ok hadded
    exact (henter .column hmode).updateBlock _ fun _ => rfl
  | step type _ _ hadded =>
    obtain ⟨-, step, steps, -, -, rfl⟩ := declareStep_eq_ok hadded
    exact hd.of_not_fills rfl rfl rfl (by rintro _ ⟨⟩; rfl)
  | tag => exact hfree .tag rfl
  | nothing _ hmode =>
    refine hd.of_not_fills rfl rfl rfl ?_
    intro mode hmem
    rw [hmode] at hmem
    cases hmem

/-! ## The open step -/

/-- Without an open step there is none to be missing. -/
theorem StepFits.of_none {d : Draft} (hopen : d.openStep = none)
    (hcapturing : d.capturing = false) : d.StepFits where
  openStep := by
    intro s hs
    rw [hopen] at hs
    cases hs
  capturing := fun _ => hcapturing

/-- With the open step, the lines that have continued it are forgotten. -/
theorem StepFits.capturing_release {d : Draft} (hd : d.StepFits) :
    d.release.capturing = false := by
  cases hopen : d.openStep with
  | none => simp [release, hd.capturing hopen]
  | some s => simp [release, hopen]

/-- A line that is taken up leaves a step open only if it is one. -/
theorem Taken.stepFits {d d' : Draft} {line : Nat} {raw clean : Text} {c : Line.Classified}
    (h : Taken d line raw clean c d') (hopen : d.openStep = none)
    (hcapturing : d.capturing = false) : d'.StepFits := by
  have hopened : ∀ (mode : Mode) (orientation : Orientation),
      (d.enter mode).declareExamples line orientation = .ok d' → d'.StepFits := by
    intro mode orientation hok
    obtain ⟨own, shared, _, _, journal, rfl⟩ := exists_of_declareExamples hok
    exact .of_none hopen hcapturing
  cases h with
  | named => exact .of_none hopen hcapturing
  | prose => exact .of_none hopen hcapturing
  | scenario closed _ hclosed _ =>
    obtain ⟨journal, rfl⟩ := closeBlocks_eq_ok hclosed
    obtain ⟨journal', heq⟩ := openScenario_eq _ _
    rw [heq]
    exact .of_none hopen hcapturing
  | scenarioProse => exact .of_none hopen hcapturing
  | background =>
    obtain ⟨journal, heq⟩ := declareBackground_eq (d.enter .background) line
    rw [heq]
    exact .of_none hopen hcapturing
  | backgroundProse => exact .of_none hopen hcapturing
  | examples _ _ hok => exact hopened _ _ hok
  | verticalExamples _ _ hok => exact hopened _ _ hok
  | header =>
    exact .of_none ((updateBlock_openStep _ _).trans hopen)
      ((updateBlock_capturing _ _).trans hcapturing)
  | row _ _ _ hadded =>
    obtain ⟨-, rfl⟩ := addRow_eq_ok hadded
    exact .of_none ((updateBlock_openStep _ _).trans hopen)
      ((updateBlock_capturing _ _).trans hcapturing)
  | column _ _ _ hadded =>
    obtain ⟨name, cells, -, -, rfl⟩ := addColumn_eq_ok hadded
    exact .of_none ((updateBlock_openStep _ _).trans hopen)
      ((updateBlock_capturing _ _).trans hcapturing)
  | step type _ _ hadded =>
    obtain ⟨-, step, steps, -, hsteps, rfl⟩ := declareStep_eq_ok hadded
    refine ⟨?_, by rintro ⟨⟩⟩
    rintro _ ⟨⟩
    -- the open step is the one that has just joined the steps
    refine ⟨steps ++ [step], ?_, by simp⟩
    rw [steps?_appendStep]
    exact congrArg _ hsteps
  | tag => exact .of_none hopen hcapturing
  | nothing => exact .of_none hopen hcapturing

/-! ## Every line -/

/-- The steps of an owner are there and not empty after a change that keeps them so. -/
theorem exists_steps?_updateSteps {d : Draft} {owner : Owner} {change : List Step → List Step}
    (hchange : ∀ steps ≠ [], change steps ≠ [])
    (h : ∃ steps, d.steps? owner = some steps ∧ steps ≠ []) :
    ∃ steps, (d.updateSteps change owner).steps? owner = some steps ∧ steps ≠ [] := by
  obtain ⟨steps, hsteps, hne⟩ := h
  refine ⟨change steps, ?_, hchange steps hne⟩
  rw [steps?_updateSteps, hsteps]
  rfl

/-- Changing the last member of a list empties no list. -/
theorem changeLast_ne_nil {α : Type} (change : α → α) {as : List α} (h : as ≠ []) :
    changeLast change as ≠ [] := by
  cases as with
  | nil => exact absurd rfl h
  | cons a rest => cases rest <;> simp [changeLast]

/-- A line that the open step captures keeps the draft valid. -/
theorem Valid.capture {d : Draft} {raw : Text} (hd : d.Valid) : (d.capture raw).Valid := by
  unfold Draft.capture
  split
  · exact hd
  · rename_i s hopen
    -- only the last step of a list changes: names and background stay where they are
    have hnames := map_name_updateSteps d (changeLast (Step.addLine · raw)) s.owner
    have hbackground := background_updateSteps_eq_none d (changeLast (Step.addLine · raw)) s.owner
    refine { hd with
      scenario := ?_, backgroundMode := ?_, lastBackground := ?_, openStep := ?_, capturing := ?_ }
    · intro name hname
      rw [hnames]
      exact hd.scenario name hname
    · intro hmode hnone
      exact hd.backgroundMode hmode (hbackground.mp hnone)
    · intro hscenario hlast hnone
      exact hd.lastBackground hscenario hlast (hbackground.mp hnone)
    · intro s' hs'
      obtain rfl : s = s' := Option.some.inj (hopen.symm.trans hs')
      exact exists_steps?_updateSteps (fun _ => changeLast_ne_nil _) (hd.openStep s hopen)
    · intro hnone
      exact absurd (hopen.symm.trans hnone) (Option.some_ne_none s)

/-- Every line that causes no fault keeps the draft valid. -/
theorem valid_of_feed {d d' : Draft} {line : Nat} {raw : Text} (hd : d.Valid)
    (h : d.feed line raw = .ok d') : d'.Valid := by
  have hcapturing := hd.capturing_release
  rcases feed_cases h with ⟨-, rfl⟩ | ⟨-, -, -, rfl⟩ | ⟨-, e, rfl, htaken⟩
  · exact hd.capture
  · have hstep : d.release.StepFits := .of_none rfl hcapturing
    exact { hstep, hd with }
  · have hgrounded : e.Grounded := htaken.grounded { hd with }
    have hblocks : e.BlocksFit := htaken.blocksFit { hd with }
    have hstep : e.StepFits := htaken.stepFits rfl hcapturing
    exact { hgrounded, hblocks, hstep with }

/-- Any lines that cause no fault lead to a valid draft. -/
theorem valid_of_feedAll {path relativePath : Path} {ls : List Text} {d : Draft}
    (h : (start path relativePath).feedAll 1 ls = .ok d) : d.Valid :=
  feedAll_induction (P := fun _ d => d.Valid) valid_of_feed (valid_start path relativePath) h

/-! ## Nothing is looked for in vain -/

/-- What the next line looks for is there, so that no line is dropped for want of its target. -/
structure Backed (d : Draft) : Prop where
  /-- The scenario that a plain line describes. -/
  described : d.mode = some .scenario →
    ∃ s ∈ d.feature.scenarios, d.scenario = some s.name ∧ d.openScenario? = some s
  /-- The background that a plain line describes. -/
  describedBackground : d.mode = some .background → ∃ b, d.feature.background = some b
  /-- The scenario that the block goes to when it is closed. -/
  blockOwner : d.scenarioBlock ≠ none → ∃ s, d.openScenario? = some s
  /-- The block that a header, a row or a column goes to. -/
  filled : ∀ mode ∈ d.mode, mode.fills = true → ∃ b, d.openBlock? = some b
  /-- The step that a captured line continues. -/
  continued : ∀ raw, d.captures raw = true → ∃ s before last,
    d.openStep = some s ∧ d.steps? s.owner = some (before ++ [last])
  /-- The steps that a step joins which may stand here. -/
  joined : d.scenario ≠ none ∨ d.takesBackgroundStep = true →
    ∃ steps, d.steps? d.stepOwner = some steps
  /-- Hence only its parameters can be at fault on the line of such a step. -/
  stepFault : d.scenario ≠ none ∨ d.takesBackgroundStep = true →
    ∀ {line raw clean type c halt}, d.declareStep line raw clean type c = .error halt →
      ∃ cause, halt.error.fault = .parameter cause c.text

/-- The open scenario of a valid draft is found. -/
theorem Grounded.exists_openScenario? {d : Draft} (hd : d.Grounded) (h : d.scenario ≠ none) :
    ∃ s, d.openScenario? = some s := by
  obtain ⟨name, hname⟩ := Option.ne_none_iff_exists'.mp h
  obtain ⟨s, hs⟩ := Feature.scenario?_isSome_iff.mpr (hd.scenario name hname)
  exact ⟨s, by rw [openScenario?, hname, Option.bind_some, hs]⟩

/-- Where a step may stand there are steps that it joins. -/
theorem Grounded.exists_steps? {d : Draft} (hd : d.Grounded)
    (h : d.scenario ≠ none ∨ d.takesBackgroundStep = true) :
    ∃ steps, d.steps? d.stepOwner = some steps := by
  by_cases hscenario : d.scenario = none
  · have htakes := h.resolve_left (fun hne => hne hscenario)
    have hbackground := hd.lastBackground hscenario (lastMode_of_takesBackgroundStep htakes)
    obtain ⟨b, hb⟩ := Option.ne_none_iff_exists'.mp hbackground
    exact ⟨b.steps, by simp [stepOwner, steps?, hb, hscenario]⟩
  · obtain ⟨s, hs⟩ := hd.exists_openScenario? hscenario
    exact ⟨s.steps, by simp [stepOwner, steps?, hs, hscenario]⟩

/-- Where a step may stand only its parameters can be at fault. -/
theorem Grounded.fault_of_declareStep {d : Draft} (hd : d.Grounded)
    (h : d.scenario ≠ none ∨ d.takesBackgroundStep = true) {line : Nat} {raw clean : Text}
    {type : StepType} {c : Line.Classified} {halt : Halt}
    (herror : d.declareStep line raw clean type c = .error halt) :
    ∃ cause, halt.error.fault = .parameter cause c.text := by
  -- the guard is passed and the owner has steps, so that only the scan can fail
  obtain ⟨steps, hsteps⟩ := hd.exists_steps? h
  have hguard : ¬(d.scenario = none ∧ ¬d.takesBackgroundStep = true) := by
    rintro ⟨hnone, htakes⟩
    exact h.elim (fun hne => hne hnone) htakes
  rw [Draft.declareStep, if_neg hguard, addStep] at herror
  split at herror
  · rename_i cause _
    obtain rfl := Except.error.inj herror
    exact ⟨cause, rfl⟩
  · split at herror
    · rename_i hnone
      exact absurd (hsteps.symm.trans hnone) (Option.some_ne_none steps)
    · cases herror

/-- In a valid draft the next line finds what it looks for. -/
theorem Valid.backed {d : Draft} (hd : d.Valid) : d.Backed where
  described := by
    intro hmode
    obtain ⟨name, hname⟩ := Option.ne_none_iff_exists'.mp (hd.scenarioMode hmode)
    obtain ⟨s, hs⟩ := hd.exists_openScenario? (hd.scenarioMode hmode)
    have hfound : d.feature.scenario? name = some s := by
      rw [← hs, openScenario?, hname, Option.bind_some]
    refine ⟨s, Feature.mem_of_scenario? hfound, ?_, hs⟩
    rw [hname, Feature.name_of_scenario? hfound]
  describedBackground := fun hmode => Option.ne_none_iff_exists'.mp (hd.backgroundMode hmode)
  blockOwner := fun hblock => hd.exists_openScenario? (hd.scenarioBlock hblock)
  filled := by
    intro mode hmode hfills
    cases mode with
    | header => exact (hd.horizontal (Or.inl hmode)).imp fun _ h => h.1
    | row => exact (hd.horizontal (Or.inr hmode)).imp fun _ h => h.1
    | column => exact (hd.vertical hmode).imp fun _ h => h.1
    | _ => cases hfills
  continued := by
    intro raw hcaptures
    unfold captures at hcaptures
    split at hcaptures
    · cases hcaptures
    · rename_i s hopen
      obtain ⟨steps, hsteps, hne⟩ := hd.openStep s hopen
      exact ⟨s, steps.dropLast, steps.getLast hne, hopen,
        by rw [hsteps, List.dropLast_concat_getLast hne]⟩
  joined := hd.exists_steps?
  stepFault := fun h => hd.fault_of_declareStep h

/-- After any lines that cause no fault, the draft is valid and the next line finds what it looks
for. -/
theorem valid_and_backed_of_feedAll {path relativePath : Path} {ls : List Text} {d : Draft}
    (h : (start path relativePath).feedAll 1 ls = .ok d) : d.Valid ∧ d.Backed :=
  ⟨valid_of_feedAll h, (valid_of_feedAll h).backed⟩

/-- Lines of a background, of a scenario with a captured line and of two tables, with tags between
the rows of the first one. -/
theorem valid_and_backed_after_tables : ∃ d,
    (start [] []).feedAll 1 ["Feature: F", "Background:", "Given a", "Scenario: S", "When b",
      "  more", "", "Examples:", "| p |", "| 1 |", "@late", "| 2 |", "Examples: Vertical",
      "| p | 1 |"] = .ok d ∧ d.Valid ∧ d.Backed :=
  Exists.imp (fun _ h => ⟨h, valid_and_backed_of_feedAll h⟩) ⟨_, rfl⟩

end Draft

end FeatureDoc
