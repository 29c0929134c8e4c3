/-
# The layout of a draft

The layout of a draft is what remains of it when every step and every block is replaced by the
number of its line. Most lines leave the layout as it is. This module says what the others do to
it.

* `Draft.layout_appendStep`, `Draft.layout_declareExamples`, `Draft.layout_openScenario`,
  `Draft.layout_declareBackground` : steps, blocks, scenarios and backgrounds add their line;
* `Draft.layout_closeBlocks` : closing blocks can only drop lines;
* `Draft.Taken.opens_or_grows` : every line that is taken up opens a scenario or adds at most its
  own number to the layout.
-/
import FeatureDoc.Proofs.Reading.Declaration

namespace FeatureDoc

/-- A scenario with the numbers of its lines. -/
structure Layout.Part where
  name : Text
  /-- The line that declares the scenario. -/
  line : Nat
  /-- The lines of its own steps. -/
  steps : List Nat
  /-- The lines that open its own blocks, with that of the block that is being read. -/
  blocks : List Nat

/-- A document with the numbers of its lines. -/
structure Layout where
  /-- The scenarios. -/
  parts : List Layout.Part
  /-- The name of the open scenario. -/
  openName : Option Text
  /-- The lines that open blocks of the feature, with that of the block that is being read. -/
  blocks : List Nat
  /-- The line of the background and those of its steps. -/
  background : Option (Nat × List Nat)

namespace Layout

/-- A scenario with one more step. -/
def Part.withStep (line : Nat) (p : Part) : Part := { p with steps := p.steps ++ [line] }

/-- A scenario with more blocks. -/
def Part.withBlocks (lines : List Nat) (p : Part) : Part := { p with blocks := p.blocks ++ lines }

/-- Changes the scenario that is open. -/
def changeOpen (l : Layout) (change : Part → Part) : Layout :=
  { l with parts := l.parts.map fun p => if l.openName = some p.name then change p else p }

/-- A change that changes nothing leaves the layout as it is. -/
theorem changeOpen_id (l : Layout) : l.changeOpen id = l := by
  simp [changeOpen]

/-- A scenario after a change of the open one is a scenario from before, changed if it was open. -/
theorem exists_of_mem_changeOpen {l : Layout} {change : Part → Part} {p' : Part}
    (h : p' ∈ (l.changeOpen change).parts) : ∃ p ∈ l.parts,
      (l.openName = some p.name ∧ p' = change p) ∨ (l.openName ≠ some p.name ∧ p' = p) := by
  obtain ⟨p, hp, rfl⟩ := List.mem_map.mp h
  refine ⟨p, hp, ?_⟩
  split
  · rename_i hopen
    exact Or.inl ⟨hopen, rfl⟩
  · rename_i hother
    exact Or.inr ⟨hother, rfl⟩

/-- A change of the open scenario that keeps its name keeps the names of all scenarios. -/
theorem map_name_changeOpen (l : Layout) (change : Part → Part)
    (hname : ∀ p, (change p).name = p.name) :
    (l.changeOpen change).parts.map Part.name = l.parts.map Part.name := by
  rw [changeOpen, List.map_map]
  apply List.map_congr_left
  intro p _
  simp only [Function.comp_apply]
  split
  · exact hname p
  · rfl

/-- One layout is another one with some blocks dropped. -/
structure Shrinks (l l' : Layout) : Prop where
  names : l'.parts.map Part.name = l.parts.map Part.name
  parts : ∀ p' ∈ l'.parts, ∃ p ∈ l.parts,
    p'.name = p.name ∧ p'.line = p.line ∧ p'.steps = p.steps ∧ p'.blocks.Sublist p.blocks
  openName : l'.openName = l.openName
  blocks : l'.blocks.Sublist l.blocks
  background : l'.background = l.background

/-- Dropping blocks twice is dropping blocks. -/
theorem Shrinks.trans {l l' l'' : Layout} (h : Shrinks l l') (h' : Shrinks l' l'') :
    Shrinks l l'' where
  names := h'.names.trans h.names
  parts := by
    intro p'' hp''
    obtain ⟨p', hp', hname', hline', hsteps', hblocks'⟩ := h'.parts p'' hp''
    obtain ⟨p, hp, hname, hline, hsteps, hblocks⟩ := h.parts p' hp'
    exact ⟨p, hp, hname'.trans hname, hline'.trans hline, hsteps'.trans hsteps,
      hblocks'.trans hblocks⟩
  openName := h'.openName.trans h.openName
  blocks := h'.blocks.trans h.blocks
  background := h'.background.trans h.background

/-- One layout is another one after the declaration of a scenario, which has neither steps nor
blocks then. -/
structure Opens (name : Text) (line : Nat) (l l' : Layout) : Prop where
  names : l'.parts.map Part.name = if name ∈ l.parts.map Part.name then l.parts.map Part.name
    else l.parts.map Part.name ++ [name]
  parts : ∀ p ∈ l'.parts, p = { name, line, steps := [], blocks := [] } ∨
    (p ∈ l.parts ∧ p.name ≠ name)
  openName : l'.openName = some name
  blocks : l'.blocks = l.blocks
  background : l'.background = l.background

/-- One layout is another one after a line that declares no scenario. -/
inductive Grows (line : Nat) (l : Layout) : Layout → Prop
  /-- The line adds nothing. -/
  | same : Grows line l l
  /-- The line is a step of the open scenario. -/
  | step : Grows line l (l.changeOpen (Part.withStep line))
  /-- The line is a step of the background. -/
  | backgroundStep (hnone : l.openName = none) :
      Grows line l { l with background := l.background.map fun b => (b.1, b.2 ++ [line]) }
  /-- The line declares a background. -/
  | background : Grows line l { l with background := some (line, []) }
  /-- The line opens a block of the open scenario. -/
  | block {l' : Layout} (hshrinks : l.Shrinks l') :
      Grows line l (l'.changeOpen (Part.withBlocks [line]))
  /-- The line opens a block of the feature. -/
  | featureBlock {l' : Layout} (hnone : l.openName = none) (hshrinks : l.Shrinks l') :
      Grows line l { l' with blocks := l'.blocks ++ [line] }

end Layout

namespace Draft

/-- The block of the open scenario that is being read, if the scenario has the given name. -/
def readBlock (d : Draft) (name : Text) : List ExampleBlock :=
  if d.scenario = some name then d.scenarioBlock.toList else []

/-- A scenario with the numbers of its lines. -/
def partOf (d : Draft) (s : Scenario) : Layout.Part :=
  { name := s.name, line := s.line, steps := s.steps.map Step.line,
    blocks := (s.examples ++ d.readBlock s.name).map ExampleBlock.line }

/-- The draft with every step and every block replaced by the number of its line. -/
def layout (d : Draft) : Layout :=
  { parts := d.feature.scenarios.map d.partOf
    openName := d.scenario
    blocks := (d.feature.examples ++ d.featureBlock.toList).map ExampleBlock.line
    background := d.feature.background.map fun b => (b.line, b.steps.map Step.line) }

/-! ## Lines that add none -/

/-- A change of the open scenario changes its part of the layout. -/
theorem layout_updateOpenScenario (d : Draft) (change : Scenario → Scenario)
    (changePart : Layout.Part → Layout.Part)
    (h : ∀ s, d.partOf (change s) = changePart (d.partOf s)) :
    (d.updateOpenScenario change).layout = d.layout.changeOpen changePart := by
  cases hscenario : d.scenario with
  | none =>
    have hsame : d.layout.changeOpen changePart = d.layout := by
      simp [Layout.changeOpen, layout, hscenario]
    rw [hsame, updateOpenScenario_of_none (by simp [openScenario?, hscenario])]
  | some name =>
    have hfeature : (d.updateOpenScenario change).feature =
        d.feature.updateScenario name change := by
      simp [updateOpenScenario, hscenario]
    have hparts : (d.feature.updateScenario name change).scenarios.map d.partOf =
        (d.layout.changeOpen changePart).parts := by
      have hlayout : d.layout.parts = d.feature.scenarios.map d.partOf := rfl
      simp only [Feature.updateScenario, Layout.changeOpen, hlayout, List.map_map]
      apply List.map_congr_left
      intro s _
      -- both sides change the scenario with the open name, and no other
      by_cases hname : s.name = name
      · have hopen : d.layout.openName = some (d.partOf s).name :=
          hscenario.trans (congrArg some hname.symm)
        simp only [Function.comp_apply]
        rw [if_pos hname, if_pos hopen, h]
      · have hother : ¬d.layout.openName = some (d.partOf s).name := fun hopen =>
          hname (Option.some.inj (hscenario.symm.trans hopen)).symm
        simp only [Function.comp_apply]
        rw [if_neg hname, if_neg hother]
    show Layout.mk ((d.updateOpenScenario change).feature.scenarios.map d.partOf) _ _ _ = _
    rw [hfeature, hparts]
    rfl

/-- Describing the open scenario adds no line. -/
theorem layout_describeScenario (d : Draft) (clean : Text) :
    (d.describeScenario clean).layout = d.layout :=
  (layout_updateOpenScenario d (fun s => { s with description := appendLine s.description clean })
    id fun _ => rfl).trans (Layout.changeOpen_id _)

/-- Describing the background adds no line. -/
theorem layout_describeBackground (d : Draft) (clean : Text) :
    (d.describeBackground clean).layout = d.layout := by
  cases hbackground : d.feature.background <;>
    simp [layout, describeBackground, Feature.updateBackground, hbackground, partOf, readBlock]

/-- Filling a block adds no line. -/
theorem layout_updateBlock (d : Draft) (change : ExampleBlock → ExampleBlock)
    (hline : ∀ b, (change b).line = b.line) : (d.updateBlock change).layout = d.layout := by
  have hmap : ∀ block : Option ExampleBlock,
      (block.map change).toList.map ExampleBlock.line = block.toList.map ExampleBlock.line := by
    intro block
    cases block <;> simp [hline]
  cases hscenario : d.scenario with
  | none => simp [layout, updateBlock, hscenario, partOf, readBlock, hmap]
  | some name =>
    simp only [layout, updateBlock, hscenario, Layout.mk.injEq, and_true]
    apply List.map_congr_left
    intro s _
    by_cases hname : name = s.name <;> simp [partOf, readBlock, hscenario, hname, hmap]

/-- The header of a block adds no line. -/
theorem layout_addHeader (d : Draft) (text : Text) : (d.addHeader text).layout = d.layout :=
  layout_updateBlock d (fun b => { b with names := (Line.splitCells text).filter (· ≠ []) })
    fun _ => rfl

/-- A line that a step captures does not count among the lines of steps. -/
theorem map_line_changeLast_addLine (raw : Text) (steps : List Step) :
    (changeLast (Step.addLine · raw) steps).map Step.line = steps.map Step.line := by
  induction steps with
  | nil => rfl
  | cons s rest ih =>
    cases rest with
    | nil => rfl
    | cons s' rest => exact congrArg (s.line :: ·) ih

/-- A line that a step captures adds no line. -/
theorem layout_capture (d : Draft) (raw : Text) : (d.capture raw).layout = d.layout := by
  unfold capture
  split
  · rfl
  · rename_i s hopen
    cases howner : s.owner with
    | background =>
      cases hbackground : d.feature.background <;>
        simp [layout, updateSteps, Feature.updateBackground, hbackground, partOf, readBlock,
          map_line_changeLast_addLine]
    | scenario =>
      refine (layout_updateOpenScenario d _ id fun t => ?_).trans (Layout.changeOpen_id _)
      simp [partOf, map_line_changeLast_addLine]

/-! ## Lines of steps and backgrounds -/

/-- A step is on the line that declares it. -/
theorem line_of_ofLine {type : StepType} {keyword text : Text} {indent line : Nat} {step : Step}
    (h : Step.ofLine type keyword text indent line = .ok step) : step.line = line := by
  obtain ⟨scanned, -, hstep⟩ := exists_of_bind_eq_ok h
  obtain rfl := Except.ok.inj hstep
  rfl

/-- A step adds its line to those of the open scenario or of the background. -/
theorem layout_appendStep (d : Draft) (owner : Owner) (step : Step) :
    (d.appendStep owner step).layout = match owner with
      | .background =>
        { d.layout with background := d.layout.background.map fun b => (b.1, b.2 ++ [step.line]) }
      | .scenario => d.layout.changeOpen (Layout.Part.withStep step.line) := by
  cases owner with
  | background =>
    cases hbackground : d.feature.background <;>
      simp [layout, appendStep, updateSteps, Feature.updateBackground, hbackground, partOf,
        readBlock]
  | scenario =>
    refine layout_updateOpenScenario d (fun s => { s with steps := s.steps ++ [step] }) _ ?_
    intro s
    simp [partOf, Layout.Part.withStep]

/-- A background has no steps when it is declared. -/
theorem layout_declareBackground (d : Draft) (line : Nat) :
    (d.declareBackground line).layout = { d.layout with background := some (line, []) } := by
  obtain ⟨journal, heq⟩ := declareBackground_eq d line
  rw [heq]
  rfl

/-! ## Lines of blocks -/

/-- Closing the block of the open scenario can only drop its line. -/
theorem layout_closeScenarioBlock {d d' : Draft} (h : d.closeScenarioBlock = .ok d') :
    d.layout.Shrinks d'.layout := by
  obtain ⟨-, journal, rfl⟩ := closeScenarioBlock_eq_ok h
  -- between taking the block away and adding it the parts have no block that is being read
  let e : Draft := { d with scenarioBlock := none, journal }
  have hpart : ∀ s, e.partOf s =
      { d.partOf s with blocks := s.examples.map ExampleBlock.line } := by
    intro s
    simp [e, partOf, readBlock]
  have hchange := layout_updateOpenScenario e (withExamples (remaining d.scenarioBlock))
    (Layout.Part.withBlocks ((remaining d.scenarioBlock).map ExampleBlock.line))
    (fun s => by rw [hpart, hpart]; simp [withExamples, partOf, Layout.Part.withBlocks])
  refine Eq.subst (motive := d.layout.Shrinks) hchange.symm
    ⟨?_, ?_, rfl, List.Sublist.refl _, rfl⟩
  · refine (Layout.map_name_changeOpen e.layout (Layout.Part.withBlocks _) fun _ => rfl).trans ?_
    simp [e, layout, partOf]
  · intro p' hp'
    obtain ⟨p, hp, hcase⟩ := Layout.exists_of_mem_changeOpen hp'
    obtain ⟨s, hs, rfl⟩ := List.mem_map.mp hp
    refine ⟨d.partOf s, List.mem_map_of_mem hs, ?_⟩
    rw [hpart] at hcase
    rcases hcase with ⟨hopen, rfl⟩ | ⟨-, rfl⟩
    · -- the block of the open scenario moves to its examples, unless it is dropped
      have hread : d.readBlock s.name = d.scenarioBlock.toList := if_pos hopen
      refine ⟨rfl, rfl, rfl, ?_⟩
      have hkept := (remaining_sublist d.scenarioBlock).append_left s.examples
      simpa [partOf, hread, Layout.Part.withBlocks] using hkept.map ExampleBlock.line
    · refine ⟨rfl, rfl, rfl, ?_⟩
      exact (List.sublist_append_left s.examples (d.readBlock s.name)).map ExampleBlock.line

/-- Closing the block of the feature can only drop its line. -/
theorem layout_closeFeatureBlock {d d' : Draft} (h : d.closeFeatureBlock = .ok d') :
    d.layout.Shrinks d'.layout := by
  obtain ⟨-, journal, rfl⟩ := closeFeatureBlock_eq_ok h
  refine ⟨rfl, fun p hp => ⟨p, hp, rfl, rfl, rfl, List.Sublist.refl _⟩, rfl, ?_, rfl⟩
  have hkept := (remaining_sublist d.featureBlock).append_left d.feature.examples
  simpa [layout] using hkept.map ExampleBlock.line

/-- Closing both blocks can only drop their lines. -/
theorem layout_closeBlocks {d d' : Draft} (h : d.closeBlocks = .ok d') :
    d.layout.Shrinks d'.layout := by
  obtain ⟨e, hscenario, hfeature⟩ := exists_of_bind_eq_ok h
  exact (layout_closeScenarioBlock hscenario).trans (layout_closeFeatureBlock hfeature)

/-- After closing the block of the open scenario none is being read. -/
theorem scenarioBlock_closeScenarioBlock {d d' : Draft} (h : d.closeScenarioBlock = .ok d') :
    d'.scenarioBlock = none := by
  obtain ⟨-, journal, rfl⟩ := closeScenarioBlock_eq_ok h
  rfl

/-- A line that opens a block adds itself to the blocks of the open scenario or of the feature,
after the block before it may have been dropped. -/
theorem layout_declareExamples {d d' : Draft} {line : Nat} {orientation : Orientation}
    (h : d.declareExamples line orientation = .ok d') : d.layout.Grows line d'.layout := by
  rcases declareExamples_eq_ok h with
    ⟨name, closed, -, hclosed, rfl⟩ | ⟨closed, hnone, hclosed, rfl⟩
  · -- the block before has been closed, so that the new one is the only one being read
    have hread := scenarioBlock_closeScenarioBlock hclosed
    let e : Draft := { closed with scenarioBlock := some (.opened orientation line) }
    have hparts : closed.feature.scenarios.map e.partOf =
        (closed.layout.changeOpen (Layout.Part.withBlocks [line])).parts := by
      have hlayout : closed.layout.parts = closed.feature.scenarios.map closed.partOf := rfl
      simp only [Layout.changeOpen, hlayout, List.map_map]
      apply List.map_congr_left
      intro s _
      simp only [Function.comp_apply]
      by_cases hname : closed.scenario = some s.name
      · have hopen : closed.layout.openName = some (closed.partOf s).name := hname
        rw [if_pos hopen]
        simp [e, partOf, readBlock, hname, hread, ExampleBlock.opened, Layout.Part.withBlocks]
      · have hother : ¬closed.layout.openName = some (closed.partOf s).name := hname
        rw [if_neg hother]
        simp [e, partOf, readBlock, hname]
    have hlayout : e.layout = closed.layout.changeOpen (Layout.Part.withBlocks [line]) :=
      congrArg (fun parts => { closed.layout with parts }) hparts
    exact Eq.subst (motive := d.layout.Grows line) hlayout.symm
      (.block (layout_closeScenarioBlock hclosed))
  · let e : Draft := { closed with featureBlock := some (.opened orientation line) }
    have hlayout : e.layout = { closed.layout with blocks := closed.layout.blocks ++ [line] } := by
      obtain ⟨-, journal, rfl⟩ := closeFeatureBlock_eq_ok hclosed
      simp [e, layout, partOf, readBlock, ExampleBlock.opened]
    exact Eq.subst (motive := d.layout.Grows line) hlayout.symm
      (.featureBlock hnone (layout_closeFeatureBlock hclosed))

/-! ## Lines of scenarios -/

/-- The parts of the layout have the names of the scenarios. -/
theorem map_name_layout (d : Draft) :
    d.layout.parts.map Layout.Part.name = d.feature.scenarios.map Scenario.name := by
  simp [layout, partOf]

/-- A scenario that is opened takes the place of one of its name. -/
theorem layout_openScenario {d : Draft} {name keyword : Text} {line : Nat} {tags : List Text}
    (hread : d.scenarioBlock = none)
    (hdistinct : (d.layout.parts.map Layout.Part.name).Nodup) :
    d.layout.Opens name line (d.openScenario (.declared name keyword line tags)).layout := by
  obtain ⟨journal, heq⟩ := openScenario_eq d (.declared name keyword line tags)
  rw [map_name_layout] at hdistinct
  refine ⟨?_, ?_, by rw [heq]; rfl, by rw [heq]; rfl, by rw [heq]; rfl⟩
  · rw [map_name_layout, map_name_layout, heq]
    exact Feature.map_name_putScenario _ _
  · intro p hp
    rw [heq] at hp
    obtain ⟨s, hs, rfl⟩ := List.mem_map.mp hp
    rcases Feature.mem_putScenario hdistinct hs with rfl | ⟨hmem, hne⟩
    · left
      simp [partOf, readBlock, hread, Scenario.declared]
    · right
      refine ⟨List.mem_map.mpr ⟨s, hmem, ?_⟩, hne⟩
      simp [partOf, readBlock, hread]

/-- If the open scenario is not without steps, its part of the layout has some. -/
theorem steps_ne_nil_of_stepless? {d : Draft} (h : d.stepless? = none)
    (hdistinct : (d.layout.parts.map Layout.Part.name).Nodup) {p : Layout.Part}
    (hp : p ∈ d.layout.parts) (hopen : d.layout.openName = some p.name) : p.steps ≠ [] := by
  obtain ⟨s, hs, rfl⟩ := List.mem_map.mp hp
  have hfound : d.openScenario? = some s := by
    rw [openScenario?, show d.scenario = some s.name from hopen, Option.bind_some]
    exact Feature.scenario?_of_mem (map_name_layout d ▸ hdistinct) hs
  rw [stepless?, hfound] at h
  have hsteps : s.steps ≠ [] := by simpa using h
  simpa [partOf] using hsteps

/-! ## Lines of every kind -/

/-- A step of the open scenario or of the background adds its line. -/
theorem layout_declareStep {d d' : Draft} {line : Nat} {raw clean : Text} {type : StepType}
    {c : Line.Classified} (h : d.declareStep line raw clean type c = .ok d') :
    d.layout.Grows line d'.layout := by
  obtain ⟨-, step, steps, hstep, -, rfl⟩ := declareStep_eq_ok h
  rw [layout_appendStep, line_of_ofLine hstep]
  cases howner : d.stepOwner with
  | scenario => exact .step
  | background =>
    -- the background owns a step only while no scenario is open
    have hnone : d.scenario = none := by
      rw [stepOwner] at howner
      split at howner
      · rename_i hbackground
        exact hbackground.2
      · cases howner
    exact .backgroundStep hnone

/-- A line that is taken up opens a scenario or adds at most its own number to the layout. -/
theorem Taken.opens_or_grows {d d' : Draft} {line : Nat} {raw : Text}
    (h : Taken d line raw (Line.stripComment raw) (Line.classify (Line.stripComment raw)) d')
    (hdistinct : (d.layout.parts.map Layout.Part.name).Nodup) :
    (∃ name l, declaredName? raw = some name ∧ d.layout.Shrinks l ∧
      (∀ p ∈ l.parts, l.openName = some p.name → p.steps ≠ []) ∧ l.Opens name line d'.layout) ∨
    (declaredName? raw = none ∧ d.layout.Grows line d'.layout) := by
  rcases h.opens_or_declares_none with ⟨closed, name, keyword, hname, hclosed, hsteps, rfl⟩ | hnone
  · left
    -- the blocks are closed before the scenario is opened
    have hshrinks : (d.enter .scenario).layout.Shrinks closed.layout := layout_closeBlocks hclosed
    have hdistinct' : (closed.layout.parts.map Layout.Part.name).Nodup :=
      hshrinks.names ▸ hdistinct
    have hread : closed.scenarioBlock = none := by
      obtain ⟨journal, rfl⟩ := closeBlocks_eq_ok hclosed
      rfl
    exact ⟨name, closed.layout, hname, hshrinks,
      fun p => steps_ne_nil_of_stepless? hsteps hdistinct', layout_openScenario hread hdistinct'⟩
  · refine Or.inr ⟨hnone, ?_⟩
    rw [declaredName?_eq] at hnone
    simp only at hnone
    generalize Line.classify (Line.stripComment raw) = c at h hnone
    cases h with
    | scenario closed hkind =>
      rcases hkind with hkind | hkind <;> simp [hkind, Line.Kind.isScenario] at hnone
    | named | prose | tag | nothing => exact .same
    | scenarioProse =>
      rw [layout_describeScenario]
      exact .same
    | background =>
      rw [layout_declareBackground]
      exact .background
    | backgroundProse =>
      rw [layout_describeBackground]
      exact .same
    | examples e hkind hopened => exact layout_declareExamples (d := d.enter .examples) hopened
    | verticalExamples e hkind hopened =>
      exact layout_declareExamples (d := d.enter .verticalExamples) hopened
    | header =>
      rw [layout_addHeader]
      exact .same
    | row e hkind hmode hadded =>
      obtain ⟨-, rfl⟩ := addRow_eq_ok hadded
      rw [layout_updateBlock _ _ (by intro; rfl)]
      exact .same
    | column e hkind hmode hadded =>
      obtain ⟨name, cells, -, -, rfl⟩ := addColumn_eq_ok hadded
      rw [layout_updateBlock _ _ (by intro; rfl)]
      exact .same
    | step type e hkind hadded => exact layout_declareStep hadded

end Draft

end FeatureDoc
