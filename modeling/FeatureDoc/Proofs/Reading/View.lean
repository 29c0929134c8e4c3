/-
# Two readings side by side

Two readings may go the same way although their steps, their paths and what they make known are
not the same: reading looks into no step that it has added, and shows paths in messages only. A
view says what one reading has where the other one has a step or a path. This module shows that
the two go on side by side, operation by operation.

* `View.Shows`, `View.InStep` : the relation between two drafts and between two outcomes;
* `View.Shows.feed`, `View.Shows.feedAll`, `View.Shows.finish` : lines and the end of a document;
* `View.InStep.readDocument_eq` : whole documents.
-/
import FeatureDoc.Proofs.Reading.Parts
import Mathlib.Data.List.Forall2

namespace FeatureDoc

/-- What the second one of two readings has in the place of what the first one has. -/
structure View where
  step : Step → Step
  /-- The indent of a step. -/
  indent : Nat → Nat
  /-- Whether the second reading has the lines that the first one captures. -/
  keepsLines : Bool
  path : Path → Path
  relativePath : Path → Path
  indent_step : ∀ s, (step s).indent = indent s.indent

namespace View

variable (v : View)

/-! ## Parts of a feature -/

/-- The open step in the second reading. -/
def openStep (s : Draft.OpenStep) : Draft.OpenStep := { s with indent := v.indent s.indent }

/-- A scenario in the second reading. -/
def scenario (s : Scenario) : Scenario := { s with steps := s.steps.map v.step }

/-- The background in the second reading. -/
def background (b : Background) : Background := { b with steps := b.steps.map v.step }

/-- The feature in the second reading. -/
def feature (f : Feature) : Feature :=
  { f with scenarios := f.scenarios.map v.scenario
           background := f.background.map v.background
           path := v.path f.path, relativePath := v.relativePath f.relativePath }

/-- A scenario of the second reading is found under the same name. -/
theorem scenario?_feature (f : Feature) (name : Text) :
    (v.feature f).scenario? name = (f.scenario? name).map v.scenario := by
  rw [Feature.scenario?, feature, List.find?_map]
  rfl

/-- A change of scenarios that does not depend on their steps does not in a feature. -/
theorem updateScenario_feature (f : Feature) (name : Text) {change change' : Scenario → Scenario}
    (h : ∀ s, change' (v.scenario s) = v.scenario (change s)) :
    (v.feature f).updateScenario name change' = v.feature (f.updateScenario name change) := by
  have hscenario : ∀ s : Scenario,
      (if (v.scenario s).name = name then change' (v.scenario s) else v.scenario s) =
        v.scenario (if s.name = name then change s else s) := by
    intro s
    by_cases hname : s.name = name
    · have hname' : (v.scenario s).name = name := hname
      rw [if_pos hname, if_pos hname', h]
    · have hname' : ¬(v.scenario s).name = name := hname
      rw [if_neg hname, if_neg hname']
  simp only [Feature.updateScenario, feature, List.map_map]
  congr 1
  exact List.map_congr_left fun s _ => hscenario s

/-- A scenario is put in the same place. -/
theorem putScenario_scenario (s : Scenario) (ss : List Scenario) :
    Feature.putScenario (v.scenario s) (ss.map v.scenario) =
      (Feature.putScenario s ss).map v.scenario := by
  induction ss with
  | nil => rfl
  | cons other rest ih =>
    rw [List.map_cons, Feature.putScenario, Feature.putScenario]
    by_cases hname : other.name = s.name
    · have hname' : (v.scenario other).name = (v.scenario s).name := hname
      rw [if_pos hname, if_pos hname', List.map_cons]
    · have hname' : ¬(v.scenario other).name = (v.scenario s).name := hname
      rw [if_neg hname, if_neg hname', List.map_cons, ih]

/-! ## Drafts and outcomes -/

/-- The second draft is the first one as the view shows it, whatever has been made known. -/
structure Shows (d e : Draft) : Prop where
  feature : e.feature = v.feature d.feature
  scenario : e.scenario = d.scenario
  mode : e.mode = d.mode
  lastMode : e.lastMode = d.lastMode
  prose : e.prose = d.prose
  openStep : e.openStep = d.openStep.map v.openStep
  capturing : e.capturing = (v.keepsLines && d.capturing)
  lastLine : e.lastLine = d.lastLine
  scenarioBlock : e.scenarioBlock = d.scenarioBlock
  featureBlock : e.featureBlock = d.featureBlock

/-- Both readings go on, or both stop at the same fault of the same line. -/
inductive InStep : Except Draft.Halt Draft → Except Draft.Halt Draft → Prop
  | ok {d e : Draft} (h : v.Shows d e) : InStep (.ok d) (.ok e)
  | error {halt halt' : Draft.Halt} (f : Feature) (hfault : halt'.error.fault = halt.error.fault)
      (hline : halt'.error.line = halt.error.line) (hpath : halt.error.path = f.pathLabel)
      (hpath' : halt'.error.path = (v.feature f).pathLabel) : InStep (.error halt) (.error halt')

/-- The second reading reads the second line where the first one reads the first. -/
structure Lines (raw raw' : Text) : Prop where
  trim : Text.trim raw' = Text.trim raw
  clean : Line.stripComment raw' = Line.stripComment raw
  blank : Text.isBlankLine raw' = Text.isBlankLine raw
  /-- It is as deep below a step. -/
  deeper : ∀ indent, v.indent indent < Text.indentWidth raw' ↔ indent < Text.indentWidth raw
  /-- It declares the same step. -/
  declared : ∀ type keyword text line,
    Step.ofLine type keyword text (Text.indentWidth raw') line =
      (Step.ofLine type keyword text (Text.indentWidth raw) line).map v.step

/-- Computations in a row are in step if each of them is. -/
theorem InStep.bind {v : View} {x y : Except Draft.Halt Draft}
    {next next' : Draft → Except Draft.Halt Draft} (h : v.InStep x y)
    (hnext : ∀ d e, v.Shows d e → v.InStep (next d) (next' e)) :
    v.InStep (x >>= next) (y >>= next') := by
  cases h with
  | ok h => exact hnext _ _ h
  | error f hfault hline hpath hpath' => exact .error f hfault hline hpath hpath'

namespace Shows

variable {v} {d e : Draft} {line : Nat} {raw raw' clean : Text} {c : Line.Classified}

/-- Both readings stop at a fault. -/
theorem fail (h : v.Shows d e) (line : Nat) (fault : ReadFault) :
    v.InStep (d.fail line fault) (e.fail line fault) :=
  .error d.feature rfl rfl rfl (by rw [← h.feature])

/-- Making something known is not seen. -/
theorem note (h : v.Shows d e) (level level' : Level) (message message' : Text) :
    v.Shows (d.note level message) (e.note level' message') := { h with }

/-- The next plain line means the same. -/
theorem enter (h : v.Shows d e) (mode : Draft.Mode) : v.Shows (d.enter mode) (e.enter mode) :=
  { h with mode := rfl, lastMode := rfl }

/-! ## The open scenario -/

/-- The open scenario is the same. -/
theorem openScenario? (h : v.Shows d e) :
    e.openScenario? = d.openScenario?.map v.scenario := by
  rw [Draft.openScenario?, Draft.openScenario?, h.scenario, h.feature]
  cases d.scenario with
  | none => rfl
  | some name => exact v.scenario?_feature d.feature name

/-- A change of the open scenario that does not depend on its steps. -/
theorem updateOpenScenario (h : v.Shows d e) {change change' : Scenario → Scenario}
    (hchange : ∀ s, change' (v.scenario s) = v.scenario (change s)) :
    v.Shows (d.updateOpenScenario change) (e.updateOpenScenario change') := by
  refine { h with feature := ?_ }
  simp only [Draft.updateOpenScenario, h.scenario, h.feature]
  cases d.scenario with
  | none => rfl
  | some name => exact v.updateScenario_feature d.feature name hchange

/-- A change of the background that does not depend on its steps. -/
theorem updateBackground (f : Feature) {change change' : Background → Background}
    (hchange : ∀ b, change' (v.background b) = v.background (change b)) :
    (v.feature f).updateBackground change' = v.feature (f.updateBackground change) := by
  have hcomp : change' ∘ v.background = v.background ∘ change := funext hchange
  simp only [Feature.updateBackground, View.feature, Option.map_map, hcomp]

/-- The steps of an owner are the same. -/
theorem steps? (h : v.Shows d e) (owner : Draft.Owner) :
    e.steps? owner = (d.steps? owner).map (List.map v.step) := by
  cases owner with
  | background =>
    rw [Draft.steps?, Draft.steps?, h.feature, View.feature, Option.map_map, Option.map_map]
    rfl
  | scenario =>
    rw [Draft.steps?, Draft.steps?, h.openScenario?, Option.map_map, Option.map_map]
    rfl

/-- A change of the steps of an owner that is seen in each step. -/
theorem updateSteps (h : v.Shows d e) (owner : Draft.Owner) {change change' : List Step → List Step}
    (hchange : ∀ steps, change' (steps.map v.step) = (change steps).map v.step) :
    v.Shows (d.updateSteps change owner) (e.updateSteps change' owner) := by
  cases owner with
  | background =>
    refine { h with feature := ?_ }
    simp only [Draft.updateSteps, h.feature]
    exact updateBackground d.feature fun b => by simp only [View.background, hchange]
  | scenario =>
    have hopen : v.Shows
        (d.updateOpenScenario fun s => { s with steps := change s.steps })
        (e.updateOpenScenario fun s => { s with steps := change' s.steps }) :=
      h.updateOpenScenario fun s => by simp only [View.scenario, hchange]
    exact { h with feature := hopen.feature }

/-! ## Lines that continue a step -/

/-- If the first reading does not capture a line, neither does the second one. -/
theorem captures_eq_false (h : v.Shows d e) (hline : v.Lines raw raw')
    (hfree : d.captures raw = false) : e.captures raw' = false := by
  unfold Draft.captures at hfree ⊢
  rw [h.openStep]
  cases hopen : d.openStep with
  | none => rfl
  | some s =>
    simp only [hopen, Bool.or_eq_false_iff, Bool.and_eq_false_iff, decide_eq_false_iff_not] at hfree
    simp only [Option.map_some, View.openStep, Bool.or_eq_false_iff, Bool.and_eq_false_iff,
      decide_eq_false_iff_not, hline.deeper, hline.blank, h.capturing]
    exact ⟨hfree.1, hfree.2.imp_right Or.inr⟩

/-- The second reading captures the lines that the first one does, if it has them. -/
theorem captures_eq_true (h : v.Shows d e) (hline : v.Lines raw raw') (hkeeps : v.keepsLines = true)
    (hcaptured : d.captures raw = true) : e.captures raw' = true := by
  unfold Draft.captures at hcaptured ⊢
  rw [h.openStep]
  cases hopen : d.openStep with
  | none => simp [hopen] at hcaptured
  | some s =>
    simpa [hopen, View.openStep, hline.deeper, hline.blank, h.capturing, hkeeps] using hcaptured

/-- A captured line joins the last step in both readings. -/
theorem capture (h : v.Shows d e) (hkeeps : v.keepsLines = true)
    (hcontinued : ∀ s : Step, (v.step s).addLine raw' = v.step (s.addLine raw)) :
    v.Shows (d.capture raw) (e.capture raw') := by
  unfold Draft.capture
  rw [h.openStep]
  cases hopen : d.openStep with
  | none => exact h
  | some s =>
    have hlast : ∀ steps : List Step,
        Draft.changeLast (Step.addLine · raw') (steps.map v.step) =
          (Draft.changeLast (Step.addLine · raw) steps).map v.step :=
      Draft.changeLast_map hcontinued
    exact { h.updateSteps s.owner hlast with capturing := by simp [hkeeps] }

/-- No further line continues the step. -/
theorem release (h : v.Shows d e) : v.Shows d.release e.release := by
  refine { h with openStep := rfl, capturing := ?_ }
  simp only [Draft.release, h.openStep, h.capturing, Option.isNone_map]
  rw [Bool.and_left_comm]

/-! ## Example blocks -/

/-- A block is added to the open scenario. -/
theorem addScenarioBlock (h : v.Shows d e) (b : ExampleBlock) :
    v.Shows (d.addScenarioBlock b) (e.addScenarioBlock b) := by
  unfold Draft.addScenarioBlock
  rw [h.openScenario?]
  cases d.openScenario? with
  | none => exact h
  | some target =>
    have hscenario : v.Shows
        (d.updateOpenScenario fun s => { s with examples := s.examples ++ [b] })
        (e.updateOpenScenario fun s => { s with examples := s.examples ++ [b] }) :=
      h.updateOpenScenario fun _ => rfl
    exact hscenario.note .debug .debug _ _

/-- A block is added to the feature. -/
theorem addFeatureBlock (h : v.Shows d e) (b : ExampleBlock) :
    v.Shows (d.addFeatureBlock b) (e.addFeatureBlock b) := by
  refine { h with feature := ?_ }
  simp only [Draft.addFeatureBlock, Draft.note, h.feature]
  rfl

/-- A block that is closed is kept in both readings, or is at fault in both. -/
theorem checkBlock (h : v.Shows d e) (b : ExampleBlock) {keep keep' : ExampleBlock → Draft}
    (hkeep : v.Shows (keep b) (keep' b)) :
    v.InStep ((d.checkBlock b).map fun kept => (kept.map keep).getD d)
      ((e.checkBlock b).map fun kept => (kept.map keep').getD e) := by
  unfold Draft.checkBlock
  split
  · exact .ok h
  · cases Draft.raggedColumn? b with
    | some fault => exact h.fail b.line fault
    | none => exact .ok hkeep

/-- The block of the open scenario is closed. -/
theorem closeScenarioBlock (h : v.Shows d e) :
    v.InStep d.closeScenarioBlock e.closeScenarioBlock := by
  unfold Draft.closeScenarioBlock
  rw [h.scenarioBlock]
  cases d.scenarioBlock with
  | none => exact .ok h
  | some b =>
    have hrest : v.Shows { d with scenarioBlock := none } { e with scenarioBlock := none } :=
      { h with scenarioBlock := rfl }
    exact hrest.checkBlock b (hrest.addScenarioBlock b)

/-- The block of the feature is closed. -/
theorem closeFeatureBlock (h : v.Shows d e) :
    v.InStep d.closeFeatureBlock e.closeFeatureBlock := by
  unfold Draft.closeFeatureBlock
  rw [h.featureBlock]
  cases d.featureBlock with
  | none => exact .ok h
  | some b =>
    have hrest : v.Shows { d with featureBlock := none } { e with featureBlock := none } :=
      { h with featureBlock := rfl }
    exact hrest.checkBlock b (hrest.addFeatureBlock b)

/-- Both blocks are closed. -/
theorem closeBlocks (h : v.Shows d e) : v.InStep d.closeBlocks e.closeBlocks :=
  h.closeScenarioBlock.bind fun _ _ h => h.closeFeatureBlock

/-- A block is opened. -/
theorem declareExamples (h : v.Shows d e) (line : Nat) (orientation : Orientation) :
    v.InStep (d.declareExamples line orientation) (e.declareExamples line orientation) := by
  unfold Draft.declareExamples
  rw [h.scenario]
  cases d.scenario with
  | none =>
    exact h.closeFeatureBlock.bind fun _ _ h => .ok { h with mode := rfl, featureBlock := rfl }
  | some name =>
    exact h.closeScenarioBlock.bind fun _ _ h => .ok { h with mode := rfl, scenarioBlock := rfl }

/-- The block that is being read is the same. -/
theorem openBlock? (h : v.Shows d e) : e.openBlock? = d.openBlock? := by
  rw [Draft.openBlock?, Draft.openBlock?, h.scenario, h.scenarioBlock, h.featureBlock]

/-- The block that is being read changes. -/
theorem updateBlock (h : v.Shows d e) (change : ExampleBlock → ExampleBlock) :
    v.Shows (d.updateBlock change) (e.updateBlock change) := by
  have hscenario := h.scenario
  cases hopen : d.scenario with
  | none =>
    rw [hopen] at hscenario
    simp only [Draft.updateBlock, hopen, hscenario, h.featureBlock]
    exact { h with scenario := rfl, featureBlock := rfl }
  | some name =>
    rw [hopen] at hscenario
    simp only [Draft.updateBlock, hopen, hscenario, h.scenarioBlock]
    exact { h with scenario := rfl, scenarioBlock := rfl }

/-- A header is taken up. -/
theorem addHeader (h : v.Shows d e) (text : Text) :
    v.Shows (d.addHeader text) (e.addHeader text) :=
  { h.updateBlock fun b => { b with names := (Line.splitCells text).filter (· ≠ []) } with
    mode := rfl }

/-- A row is taken up. -/
theorem addRow (h : v.Shows d e) (line : Nat) (text : Text) :
    v.InStep (d.addRow line text) (e.addRow line text) := by
  unfold Draft.addRow
  rw [h.openBlock?]
  cases d.openBlock? with
  | none => exact .ok h
  | some b =>
    simp only
    split
    · exact h.fail line _
    · exact .ok (h.updateBlock _)

/-- A column is taken up. -/
theorem addColumn (h : v.Shows d e) (line : Nat) (text : Text) :
    v.InStep (d.addColumn line text) (e.addColumn line text) := by
  unfold Draft.addColumn
  rw [h.openBlock?]
  cases Line.splitCells text with
  | nil => exact h.fail line _
  | cons name cells =>
    cases d.openBlock? with
    | none => exact .ok h
    | some b =>
      simp only
      split
      · exact h.fail line _
      · exact .ok (h.updateBlock _)

/-! ## Declarations -/

/-- The same tags precede a declaration. -/
theorem precedingTags (h : v.Shows d e) : e.precedingTags = d.precedingTags := by
  rw [Draft.precedingTags, Draft.precedingTags, h.lastLine]

/-- A line of the feature is taken up. -/
theorem takeFeatureLine (h : v.Shows d e) (line : Nat) (clean : Text) (c : Line.Classified) :
    v.InStep (d.takeFeatureLine line clean c) (e.takeFeatureLine line clean c) := by
  have hname : e.feature.name = d.feature.name := by
    rw [h.feature]
    rfl
  have hnamed : v.Shows
      { d.enter .feature with
        feature := { d.feature with name := some c.text, line, tags := d.precedingTags } }
      { e.enter .feature with
        feature := { e.feature with name := some c.text, line, tags := e.precedingTags } } := by
    refine { h.enter .feature with feature := ?_ }
    simp only [h.feature, h.precedingTags]
    rfl
  unfold Draft.takeFeatureLine
  simp only [h.lastMode, hname, h.prose]
  split
  · split
    · exact .ok hnamed
    · exact h.fail line _
  · split
    · exact .ok hnamed
    · exact h.fail line _
  · exact .ok { h.enter .feature with prose := rfl }
  · exact h.fail line _

/-- The open scenario has no steps in either reading, or has some in both. -/
theorem stepless? (h : v.Shows d e) : e.stepless? = d.stepless? := by
  unfold Draft.stepless?
  rw [h.openScenario?]
  cases d.openScenario? with
  | none => rfl
  | some s => simp [View.scenario]

/-- A scenario that has just been declared is opened. -/
theorem openScenario (h : v.Shows d e) (name keyword : Text) (line : Nat) (tags : List Text) :
    v.Shows (d.openScenario (.declared name keyword line tags))
      (e.openScenario (.declared name keyword line tags)) := by
  obtain ⟨journal, hd⟩ := Draft.openScenario_eq d (.declared name keyword line tags)
  obtain ⟨journal', he⟩ := Draft.openScenario_eq e (.declared name keyword line tags)
  rw [hd, he]
  refine { h with feature := ?_, scenario := rfl }
  have hput := v.putScenario_scenario (.declared name keyword line tags) d.feature.scenarios
  simp only [h.feature, View.feature, ← hput]
  rfl

/-- A scenario is declared. -/
theorem declareScenario (h : v.Shows d e) (line : Nat) (clean : Text) (c : Line.Classified) :
    v.InStep (d.declareScenario line clean c) (e.declareScenario line clean c) := by
  refine h.closeBlocks.bind fun closed closed' h => ?_
  rw [h.stepless?, h.precedingTags]
  cases closed.stepless? with
  | none => exact .ok (h.openScenario _ _ _ _)
  | some name => exact h.fail line _

/-- A background is declared. -/
theorem declareBackground (h : v.Shows d e) (line : Nat) :
    v.Shows (d.declareBackground line) (e.declareBackground line) := by
  obtain ⟨journal, hd⟩ := Draft.declareBackground_eq d line
  obtain ⟨journal', he⟩ := Draft.declareBackground_eq e line
  rw [hd, he]
  refine { h with feature := ?_ }
  simp only [h.feature]
  rfl

/-! ## Steps -/

/-- The next step joins the same steps. -/
theorem stepOwner (h : v.Shows d e) : e.stepOwner = d.stepOwner := by
  simp [Draft.stepOwner, h.scenario, h.feature, View.feature]

/-- A step is added. -/
theorem appendStep (h : v.Shows d e) (owner : Draft.Owner) (step : Step) :
    v.Shows (d.appendStep owner step) (e.appendStep owner (v.step step)) := by
  have hsteps : v.Shows (d.updateSteps (· ++ [step]) owner)
      (e.updateSteps (· ++ [v.step step]) owner) := h.updateSteps owner fun steps => by simp
  refine { hsteps with openStep := ?_, capturing := (Bool.and_false _).symm }
  simp only [Draft.appendStep, Option.map_some, View.openStep, v.indent_step]

/-- A step is declared. -/
theorem declareStep (h : v.Shows d e) (hline : v.Lines raw raw') (line : Nat) (clean : Text)
    (type : StepType) (c : Line.Classified) :
    v.InStep (d.declareStep line raw clean type c) (e.declareStep line raw' clean type c) := by
  have htakes : e.takesBackgroundStep = d.takesBackgroundStep := by
    rw [Draft.takesBackgroundStep, Draft.takesBackgroundStep, h.lastMode]
  have henter := h.enter (.step type)
  unfold Draft.declareStep Draft.addStep
  rw [h.scenario, htakes, hline.declared, henter.stepOwner, henter.steps?]
  split
  · exact h.fail line _
  · cases Step.ofLine type c.keyword c.text (Text.indentWidth raw) line with
    | error cause => exact henter.fail line _
    | ok step =>
      cases (d.enter (.step type)).steps? (d.enter (.step type)).stepOwner with
      | none => exact henter.fail line _
      | some steps => exact .ok (henter.appendStep _ step)

/-! ## Lines -/

/-- The open scenario is described. -/
theorem describeScenario (h : v.Shows d e) (clean : Text) :
    v.Shows (d.describeScenario clean) (e.describeScenario clean) :=
  h.updateOpenScenario fun _ => rfl

/-- The background is described. -/
theorem describeBackground (h : v.Shows d e) (clean : Text) :
    v.Shows (d.describeBackground clean) (e.describeBackground clean) := by
  refine { h with feature := ?_ }
  simp only [Draft.describeBackground, h.feature]
  exact updateBackground d.feature fun _ => rfl

/-- A plain line is taken up. -/
theorem takePlainLine (h : v.Shows d e) (hline : v.Lines raw raw') (line : Nat) (clean : Text)
    (c : Line.Classified) :
    v.InStep (d.takePlainLine line raw clean c) (e.takePlainLine line raw' clean c) := by
  unfold Draft.takePlainLine
  rw [h.mode, hline.trim]
  split
  · exact .ok { h with mode := rfl, lastMode := rfl }
  · exact .ok (h.enter .tag)
  · exact h.takeFeatureLine line clean c
  · exact .ok ((h.enter .scenario).describeScenario clean)
  · exact .ok ((h.enter .background).describeBackground clean)
  · exact (h.enter .examples).declareExamples line .horizontal
  · exact (h.enter .verticalExamples).declareExamples line .vertical
  · exact .ok ((h.enter .header).addHeader c.text)
  · exact (h.enter .row).addRow line _
  · exact (h.enter .column).addColumn line _
  · exact h.declareStep hline line clean _ c

/-- A line is taken up by what it declares. -/
theorem declare (h : v.Shows d e) (hline : v.Lines raw raw') (line : Nat) (clean : Text)
    (c : Line.Classified) :
    v.InStep (d.declare line raw clean c) (e.declare line raw' clean c) := by
  unfold Draft.declare
  rw [h.mode]
  split
  · exact h.takeFeatureLine line clean c
  · exact (h.enter .scenario).declareScenario line clean c
  · exact (h.enter .scenario).declareScenario line clean c
  · exact .ok ((h.enter .background).declareBackground line)
  · exact (h.enter .examples).declareExamples line .horizontal
  · exact (h.enter .verticalExamples).declareExamples line .vertical
  · exact h.declareStep hline line clean _ c
  · exact .ok (h.enter .tag)
  · split
    · exact h.declareStep hline line clean _ c
    · exact h.fail line _
  · exact h.takePlainLine hline line clean c

/-- A line that the first reading does not capture is taken up in both. -/
theorem feed_of_free (h : v.Shows d e) (hline : v.Lines raw raw') (hfree : d.captures raw = false) :
    v.InStep (d.feed line raw) (e.feed line raw') := by
  have hfirst : ¬d.captures raw = true := by simp [hfree]
  have hsecond : ¬e.captures raw' = true := by simp [h.captures_eq_false hline hfree]
  have hrelease := h.release
  rw [Draft.feed, Draft.feed, if_neg hfirst, if_neg hsecond, hline.clean]
  simp only [hrelease.lastMode]
  split
  · exact .ok hrelease
  · refine ((hrelease.note .trace .trace _ _).declare hline line _ _).bind fun _ _ h => ?_
    exact .ok { h with lastLine := rfl }

/-- A line is read, if the second reading has the lines that the first one captures. -/
theorem feed (h : v.Shows d e) (hline : v.Lines raw raw') (hkeeps : v.keepsLines = true)
    (hcontinued : ∀ s : Step, (v.step s).addLine raw' = v.step (s.addLine raw)) :
    v.InStep (d.feed line raw) (e.feed line raw') := by
  by_cases hcaptured : d.captures raw = true
  · have hcaptured' := h.captures_eq_true hline hkeeps hcaptured
    rw [Draft.feed, Draft.feed, if_pos hcaptured, if_pos hcaptured']
    exact .ok (h.capture hkeeps hcontinued)
  · exact h.feed_of_free hline (by simpa using hcaptured)

/-- Lines are read, if the second reading has the lines that the first one captures. -/
theorem feedAll (h : v.Shows d e) (hkeeps : v.keepsLines = true) {ls ls' : List Text}
    (hlines : List.Forall₂ (fun raw raw' => v.Lines raw raw' ∧
      ∀ s : Step, (v.step s).addLine raw' = v.step (s.addLine raw)) ls ls') :
    v.InStep (d.feedAll line ls) (e.feedAll line ls') := by
  induction hlines generalizing d e line with
  | nil => exact .ok h
  | cons hline _ ih => exact (h.feed hline.1 hkeeps hline.2).bind fun _ _ h => ih h

/-- A document ends. -/
theorem finish (h : v.Shows d e) : v.InStep d.finish e.finish := by
  have hrest : v.Shows { d with openStep := none } { e with openStep := none } :=
    { h with openStep := rfl }
  refine hrest.closeBlocks.bind fun closed closed' h => ?_
  have hdescribed : v.Shows
      { closed with feature := { closed.feature with
          description := Text.trim (Text.unlines closed.prose) } }
      { closed' with feature := { closed'.feature with
          description := Text.trim (Text.unlines closed'.prose) } } := by
    refine { h with feature := ?_ }
    simp only [h.feature, h.prose]
    rfl
  exact .ok (hdescribed.note .debug .debug _ _)

end Shows

/-! ## Whole documents -/

/-- Documents that are read in step describe the feature and what the view shows of it, or have
the same fault on the same line. -/
theorem InStep.readDocument_eq {v : View} {path path' relativePath relativePath' : Path}
    {t t' : Text}
    (h : v.InStep ((Draft.start path relativePath).feedAll 1 (Text.lines t) >>= Draft.finish)
      ((Draft.start path' relativePath').feedAll 1 (Text.lines t') >>= Draft.finish)) :
    (∃ f, (readDocument path relativePath t).result = .ok f ∧
      (readDocument path' relativePath' t').result = .ok (v.feature f)) ∨
    (∃ f fault line,
      (readDocument path relativePath t).result = .error ⟨fault, line, Feature.pathLabel f⟩ ∧
      (readDocument path' relativePath' t').result =
        .error ⟨fault, line, (v.feature f).pathLabel⟩) := by
  rw [readDocument, readDocument]
  generalize (Draft.start path relativePath).feedAll 1 (Text.lines t) >>= Draft.finish = x at h ⊢
  generalize (Draft.start path' relativePath').feedAll 1 (Text.lines t') >>= Draft.finish = y at h ⊢
  cases h with
  | @ok d e h => exact Or.inl ⟨d.feature, rfl, congrArg Except.ok h.feature⟩
  | @error halt halt' f hfault hline hpath hpath' =>
    refine Or.inr ⟨f, halt.error.fault, halt.error.line, ?_, ?_⟩
    · rw [← hpath]
    · rw [← hpath', ← hfault, ← hline]

end View

end FeatureDoc
