/-
# The parts of a draft

What the operations on drafts do to the parts that later lines look at: the open scenario, the
steps of an owner and the block that is being read.

* `Draft.steps?_updateSteps`, `Draft.openBlock?_updateBlock` : a change of a part is seen when the
  part is looked up;
* `Draft.closeScenarioBlock_eq_ok`, `Draft.closeFeatureBlock_eq_ok` : what closing a block does;
* `Draft.declareExamples_eq_ok`, `Draft.addRow_eq_ok`, `Draft.addColumn_eq_ok`,
  `Draft.declareStep_eq_ok` : what is known after a line that can be at fault was taken up.
-/
import FeatureDoc.Feature.Draft
import FeatureDoc.Proofs.Success

namespace FeatureDoc

namespace Draft

/-! ## Faults -/

/-- A fault is no success. -/
@[simp] theorem fail_ne_ok {α : Type} (d : Draft) (line : Nat) (fault : ReadFault) (a : α) :
    d.fail line fault ≠ .ok a := by
  simp [fail]

/-! ## The open scenario and the steps -/

/-- A change that changes nothing leaves the draft as it is. -/
theorem updateOpenScenario_id (d : Draft) : d.updateOpenScenario id = d := by
  unfold updateOpenScenario
  cases hscenario : d.scenario with
  | none => simp [← hscenario]
  | some name => simp [Feature.updateScenario, ← hscenario]

/-- Without an open scenario a change of it leaves the draft as it is. -/
theorem updateOpenScenario_of_none {d : Draft} {change : Scenario → Scenario}
    (h : d.openScenario? = none) : d.updateOpenScenario change = d := by
  unfold updateOpenScenario
  cases hscenario : d.scenario with
  | none => simp [← hscenario]
  | some name =>
    rw [openScenario?, hscenario, Option.bind_some, Feature.scenario?, List.find?_eq_none] at h
    have hmap : d.feature.scenarios.map (fun s => if s.name = name then change s else s) =
        d.feature.scenarios := by
      rw [List.map_congr_left (g := id), List.map_id]
      intro s hs
      have hne : ¬s.name = name := by simpa using h s hs
      rw [if_neg hne, id]
    simp only [Feature.updateScenario, hmap, ← hscenario]

/-- A change of the open scenario is seen when it is looked up. -/
theorem openScenario?_updateOpenScenario (d : Draft) (change : Scenario → Scenario)
    (hname : ∀ s, (change s).name = s.name) :
    (d.updateOpenScenario change).openScenario? = d.openScenario?.map change := by
  rw [openScenario?, openScenario?]
  cases hscenario : d.scenario with
  | none => simp [updateOpenScenario, hscenario]
  | some name =>
    simp only [updateOpenScenario, hscenario, Option.bind_some]
    exact Feature.scenario?_updateScenario_self d.feature name hname

/-- What a change of the open scenario keeps of it is kept of every scenario. -/
theorem map_updateOpenScenario {α : Type} (d : Draft) {change : Scenario → Scenario}
    {part : Scenario → α} (h : ∀ sc, part (change sc) = part sc) :
    (d.updateOpenScenario change).feature.scenarios.map part = d.feature.scenarios.map part := by
  unfold updateOpenScenario
  split
  · exact Feature.map_updateScenario d.feature _ h
  · rfl

/-- A change of the open scenario that keeps its name keeps the names of all scenarios. -/
theorem map_name_updateOpenScenario (d : Draft) (change : Scenario → Scenario)
    (hname : ∀ s, (change s).name = s.name) :
    (d.updateOpenScenario change).feature.scenarios.map Scenario.name =
      d.feature.scenarios.map Scenario.name :=
  map_updateOpenScenario d hname

/-- After a change of the open scenario, every scenario is one of before or such a one changed. -/
theorem mem_scenarios_updateOpenScenario {d : Draft} {change : Scenario → Scenario}
    {sc' : Scenario} (h : sc' ∈ (d.updateOpenScenario change).feature.scenarios) :
    ∃ sc ∈ d.feature.scenarios, sc' = sc ∨ sc' = change sc := by
  unfold updateOpenScenario at h
  split at h
  · obtain ⟨sc, hsc, rfl⟩ := List.mem_map.mp h
    refine ⟨sc, hsc, ?_⟩
    split
    · exact Or.inr rfl
    · exact Or.inl rfl
  · exact ⟨sc', h, Or.inl rfl⟩

/-- What a change of the open scenario keeps of it is the same in all scenarios. -/
theorem flatMap_updateOpenScenario {α : Type} (d : Draft) {change : Scenario → Scenario}
    {part : Scenario → List α} (h : ∀ sc, part (change sc) = part sc) :
    (d.updateOpenScenario change).feature.scenarios.flatMap part =
      d.feature.scenarios.flatMap part := by
  rw [List.flatMap_def, map_updateOpenScenario d h, List.flatMap_def]

/-- Changing the open scenario leaves the background as it is. -/
theorem background_updateOpenScenario (d : Draft) (change : Scenario → Scenario) :
    (d.updateOpenScenario change).feature.background = d.feature.background := by
  unfold updateOpenScenario
  split <;> rfl

/-- A change of the steps of an owner keeps the names of all scenarios. -/
theorem map_name_updateSteps (d : Draft) (change : List Step → List Step) (owner : Owner) :
    (d.updateSteps change owner).feature.scenarios.map Scenario.name =
      d.feature.scenarios.map Scenario.name := by
  cases owner with
  | background => rfl
  | scenario => exact map_name_updateOpenScenario d _ fun _ => rfl

/-- A change of the steps of an owner neither makes nor removes a background. -/
theorem background_updateSteps_eq_none (d : Draft) (change : List Step → List Step)
    (owner : Owner) :
    (d.updateSteps change owner).feature.background = none ↔ d.feature.background = none := by
  cases owner with
  | background => simp [updateSteps, Feature.updateBackground]
  | scenario => simp [updateSteps, background_updateOpenScenario]

/-- A change of the steps of an owner is seen when they are looked up. -/
theorem steps?_updateSteps (d : Draft) (change : List Step → List Step) (owner : Owner) :
    (d.updateSteps change owner).steps? owner = (d.steps? owner).map change := by
  cases owner with
  | background =>
    simp only [updateSteps, steps?, Feature.updateBackground, Option.map_map]
    rfl
  | scenario =>
    have hfound := openScenario?_updateOpenScenario d
      (fun s => { s with steps := change s.steps }) (fun _ => rfl)
    show Option.map Scenario.steps (openScenario? (d.updateOpenScenario _)) = _
    rw [hfound, steps?, Option.map_map, Option.map_map]
    rfl

/-- A change of the steps of an owner that changes nothing leaves the draft as it is. -/
theorem updateSteps_id (d : Draft) (owner : Owner) : d.updateSteps id owner = d := by
  cases owner with
  | background => simp [updateSteps, Feature.updateBackground]
  | scenario =>
    have hsame : (fun s : Scenario => { s with steps := id s.steps }) = id := rfl
    simp only [updateSteps, hsame, updateOpenScenario_id]

/-- Changing the last member of a list commutes with a change of all members if it does so for
each of them. -/
theorem changeLast_map {α β : Type} {image : α → β} {change : α → α} {change' : β → β}
    (h : ∀ a, change' (image a) = image (change a)) (as : List α) :
    changeLast change' (as.map image) = (changeLast change as).map image := by
  induction as with
  | nil => rfl
  | cons a rest ih =>
    cases rest with
    | nil => exact congrArg (· :: []) (h a)
    | cons a' rest => exact congrArg (image a :: ·) ih

/-- Adding a step keeps the names of all scenarios. -/
theorem map_name_appendStep (d : Draft) (owner : Owner) (step : Step) :
    (d.appendStep owner step).feature.scenarios.map Scenario.name =
      d.feature.scenarios.map Scenario.name :=
  map_name_updateSteps d (· ++ [step]) owner

/-- A step that was added stands at the end of the steps of its owner. -/
theorem steps?_appendStep (d : Draft) (owner : Owner) (step : Step) :
    (d.appendStep owner step).steps? owner = (d.steps? owner).map (· ++ [step]) :=
  steps?_updateSteps d (· ++ [step]) owner

/-- Describing the open scenario keeps the names of all scenarios. -/
theorem map_name_describeScenario (d : Draft) (clean : Text) :
    (d.describeScenario clean).feature.scenarios.map Scenario.name =
      d.feature.scenarios.map Scenario.name :=
  map_name_updateOpenScenario d _ fun _ => rfl

/-! ## The block that is being read -/

section UpdateBlock

variable (d : Draft) (change : ExampleBlock → ExampleBlock)

@[simp] theorem updateBlock_feature : (d.updateBlock change).feature = d.feature := by
  unfold updateBlock
  split <;> rfl

@[simp] theorem updateBlock_scenario : (d.updateBlock change).scenario = d.scenario := by
  unfold updateBlock
  split <;> rfl

@[simp] theorem updateBlock_mode : (d.updateBlock change).mode = d.mode := by
  unfold updateBlock
  split <;> rfl

@[simp] theorem updateBlock_lastMode : (d.updateBlock change).lastMode = d.lastMode := by
  unfold updateBlock
  split <;> rfl

@[simp] theorem updateBlock_openStep : (d.updateBlock change).openStep = d.openStep := by
  unfold updateBlock
  split <;> rfl

@[simp] theorem updateBlock_capturing : (d.updateBlock change).capturing = d.capturing := by
  unfold updateBlock
  split <;> rfl

/-- Changing the block makes none where there was none. -/
theorem updateBlock_scenarioBlock_eq_none :
    (d.updateBlock change).scenarioBlock = none ↔ d.scenarioBlock = none := by
  unfold updateBlock
  split <;> simp

/-- Changing the block makes none where there was none. -/
theorem updateBlock_featureBlock_eq_none :
    (d.updateBlock change).featureBlock = none ↔ d.featureBlock = none := by
  unfold updateBlock
  split <;> simp

end UpdateBlock

/-- A change of the block is seen when it is looked up. -/
theorem openBlock?_updateBlock (d : Draft) (change : ExampleBlock → ExampleBlock) :
    (d.updateBlock change).openBlock? = d.openBlock?.map change := by
  cases hscenario : d.scenario <;> simp [updateBlock, openBlock?, hscenario]

/-- Where no block is being read there is none to be changed. -/
theorem updateBlock_of_none {d : Draft} (h : d.openBlock? = none)
    (change : ExampleBlock → ExampleBlock) : d.updateBlock change = d := by
  unfold openBlock? at h
  unfold updateBlock
  split at h <;> rw [h, Option.map_none, ← h]

/-- A change of the block leaves the mode that a line has made. -/
theorem updateBlock_enter (d : Draft) (mode : Mode) (change : ExampleBlock → ExampleBlock) :
    { (d.enter mode).updateBlock change with mode := some mode } =
      (d.enter mode).updateBlock change := by
  unfold updateBlock
  split <;> rfl

/-- What a block leaves behind when it is closed: itself, unless it holds no cells. -/
def remaining (block : Option ExampleBlock) : List ExampleBlock :=
  (block.filter fun b => !b.isEmpty).toList

/-- What a block leaves behind is part of what was being read. -/
theorem remaining_sublist (block : Option ExampleBlock) :
    (remaining block).Sublist block.toList := by
  cases block with
  | none => exact List.Sublist.refl _
  | some b =>
    rw [remaining, Option.filter_some]
    split
    · exact List.Sublist.refl _
    · exact List.nil_sublist _

/-- What a block leaves behind is the block that was being read. -/
theorem eq_some_of_mem_remaining {block : Option ExampleBlock} {b : ExampleBlock}
    (h : b ∈ remaining block) : block = some b :=
  Option.mem_toList.mp ((remaining_sublist block).mem h)

/-- What a block leaves behind has lines. -/
theorem isEmpty_of_mem_remaining {block : Option ExampleBlock} {b : ExampleBlock}
    (h : b ∈ remaining block) : b.isEmpty = false := by
  rw [remaining, Option.mem_toList, Option.filter_eq_some_iff] at h
  simpa using h.2

/-- The change of a scenario that closing a block makes. -/
def withExamples (blocks : List ExampleBlock) (s : Scenario) : Scenario :=
  { s with examples := s.examples ++ blocks }

/-- Adding no blocks changes nothing. -/
theorem withExamples_nil : withExamples [] = id := by
  funext s
  simp [withExamples]

/-- A block that is checked leaves itself behind, which is not ragged then, or nothing. -/
theorem checkBlock_eq_ok {d : Draft} {b : ExampleBlock} {kept : Option ExampleBlock}
    (h : d.checkBlock b = .ok kept) :
    kept.toList = remaining (some b) ∧ ∀ b' ∈ kept, raggedColumn? b' = none := by
  unfold checkBlock at h
  split at h
  · rename_i hempty
    obtain rfl := Except.ok.inj h
    simp [remaining, hempty]
  · rename_i hcells
    split at h
    · exact absurd h (fail_ne_ok _ _ _ _)
    · rename_i heven
      obtain rfl := Except.ok.inj h
      have hfull : b.isEmpty = false := by simpa using hcells
      simp [remaining, Option.filter_some, hfull, heven]

/-- Closing the block of the open scenario adds it to the scenario, unless it holds no cells. -/
theorem closeScenarioBlock_eq_ok {d d' : Draft} (h : d.closeScenarioBlock = .ok d') :
    (∀ b ∈ remaining d.scenarioBlock, raggedColumn? b = none) ∧ ∃ journal,
      d' = { d.updateOpenScenario (withExamples (remaining d.scenarioBlock)) with
        scenarioBlock := none, journal } := by
  unfold closeScenarioBlock at h
  split at h
  · rename_i hnone
    obtain rfl := Except.ok.inj h
    rw [hnone]
    refine ⟨by simp [remaining], d.journal, ?_⟩
    rw [show remaining none = [] from rfl, withExamples_nil, updateOpenScenario_id, ← hnone]
  · rename_i b hsome
    obtain ⟨kept, hkept, rfl⟩ := exists_of_map_eq_ok h
    obtain ⟨hremaining, heven⟩ := checkBlock_eq_ok hkept
    rw [hsome, ← hremaining]
    refine ⟨by simpa using heven, ?_⟩
    cases kept with
    | none =>
      refine ⟨d.journal, ?_⟩
      rw [Option.toList_none, withExamples_nil, updateOpenScenario_id]
      rfl
    | some b' =>
      simp only [Option.map_some, Option.getD_some, addScenarioBlock]
      split
      · rename_i hopen
        refine ⟨d.journal, ?_⟩
        rw [updateOpenScenario_of_none (d := d) hopen]
      · exact ⟨_, rfl⟩

/-- Closing the block of the feature adds it to the feature, unless it holds no cells. -/
theorem closeFeatureBlock_eq_ok {d d' : Draft} (h : d.closeFeatureBlock = .ok d') :
    (∀ b ∈ remaining d.featureBlock, raggedColumn? b = none) ∧ ∃ journal,
      d' = { d with
        feature := { d.feature with examples := d.feature.examples ++ remaining d.featureBlock }
        featureBlock := none, journal } := by
  unfold closeFeatureBlock at h
  split at h
  · rename_i hnone
    obtain rfl := Except.ok.inj h
    rw [hnone]
    refine ⟨by simp [remaining], d.journal, ?_⟩
    rw [show remaining none = [] from rfl, List.append_nil, ← hnone]
  · rename_i b hsome
    obtain ⟨kept, hkept, rfl⟩ := exists_of_map_eq_ok h
    obtain ⟨hremaining, heven⟩ := checkBlock_eq_ok hkept
    rw [hsome, ← hremaining]
    refine ⟨by simpa using heven, ?_⟩
    cases kept with
    | none => exact ⟨d.journal, by simp⟩
    | some b' => exact ⟨_, rfl⟩

/-- Closing the block of the open scenario succeeds unless the block is ragged. -/
theorem exists_closeScenarioBlock {d : Draft}
    (h : ∀ b ∈ remaining d.scenarioBlock, raggedColumn? b = none) :
    ∃ d', d.closeScenarioBlock = .ok d' := by
  unfold closeScenarioBlock
  cases hblock : d.scenarioBlock with
  | none => exact ⟨d, rfl⟩
  | some b =>
    simp only [checkBlock]
    split
    · exact ⟨_, rfl⟩
    · rename_i hcells
      have heven : raggedColumn? b = none := by
        apply h
        rw [hblock]
        simpa [remaining] using hcells
      rw [heven]
      exact ⟨_, rfl⟩

/-- Closing both blocks adds them to the open scenario and to the feature. -/
theorem closeBlocks_eq_ok {d d' : Draft} (h : d.closeBlocks = .ok d') : ∃ journal,
    let e := d.updateOpenScenario (withExamples (remaining d.scenarioBlock))
    d' = { e with
      feature := { e.feature with examples := e.feature.examples ++ remaining d.featureBlock }
      scenarioBlock := none, featureBlock := none, journal } := by
  obtain ⟨e, hscenario, hfeature⟩ := exists_of_bind_eq_ok h
  obtain ⟨-, journal, rfl⟩ := closeScenarioBlock_eq_ok hscenario
  obtain ⟨-, journal', rfl⟩ := closeFeatureBlock_eq_ok hfeature
  exact ⟨journal', rfl⟩

/-! ## Declarations -/

/-- Opening a scenario puts it among those of the feature. -/
theorem openScenario_eq (d : Draft) (s : Scenario) : ∃ journal, d.openScenario s =
    { d with
      feature := { d.feature with scenarios := Feature.putScenario s d.feature.scenarios }
      scenario := some s.name, journal } := by
  unfold openScenario
  simp only
  split <;> exact ⟨_, rfl⟩

/-- Declaring a background puts it in the place of an earlier one. -/
theorem declareBackground_eq (d : Draft) (line : Nat) : ∃ journal, d.declareBackground line =
    { d with feature := { d.feature with background := some (.declared line) }, journal } := by
  unfold declareBackground
  simp only
  split <;> exact ⟨_, rfl⟩

/-! ## Lines that can be at fault -/

/-- A line that opens a block closes the one before it. -/
theorem declareExamples_eq_ok {d d' : Draft} {line : Nat} {orientation : Orientation}
    (h : d.declareExamples line orientation = .ok d') :
    (∃ name closed, d.scenario = some name ∧ d.closeScenarioBlock = .ok closed ∧
      d' = { closed with scenarioBlock := some (.opened orientation line)
                         mode := some (fillMode orientation) }) ∨
    (∃ closed, d.scenario = none ∧ d.closeFeatureBlock = .ok closed ∧
      d' = { closed with featureBlock := some (.opened orientation line)
                         mode := some (fillMode orientation) }) := by
  unfold declareExamples at h
  split at h
  · rename_i name hscenario
    obtain ⟨closed, hclosed, hopened⟩ := exists_of_bind_eq_ok h
    exact Or.inl ⟨name, closed, hscenario, hclosed, (Except.ok.inj hopened).symm⟩
  · rename_i hscenario
    obtain ⟨closed, hclosed, hopened⟩ := exists_of_bind_eq_ok h
    exact Or.inr ⟨closed, hscenario, hclosed, (Except.ok.inj hopened).symm⟩

/-- A line that opens a block may add blocks to the open scenario and to the feature. Else it
changes only the mode and the blocks that are being read. -/
theorem exists_of_declareExamples {d d' : Draft} {line : Nat} {orientation : Orientation}
    (h : d.declareExamples line orientation = .ok d') :
    ∃ own shared scenarioBlock featureBlock journal,
      let e := d.updateOpenScenario (withExamples own)
      d' = { e with
        feature := { e.feature with examples := e.feature.examples ++ shared }
        mode := some (fillMode orientation), scenarioBlock, featureBlock, journal } := by
  rcases declareExamples_eq_ok h with ⟨name, closed, -, hclosed, rfl⟩ | ⟨closed, -, hclosed, rfl⟩
  · obtain ⟨-, journal, rfl⟩ := closeScenarioBlock_eq_ok hclosed
    refine ⟨remaining d.scenarioBlock, [], some (.opened orientation line), d.featureBlock, journal,
      ?_⟩
    simp only [List.append_nil]
    rfl
  · obtain ⟨-, journal, rfl⟩ := closeFeatureBlock_eq_ok hclosed
    refine ⟨[], remaining d.featureBlock, d.scenarioBlock, some (.opened orientation line), journal,
      ?_⟩
    simp only [withExamples_nil, updateOpenScenario_id]

/-- The block that has been opened is the one that lines are added to. -/
theorem openBlock?_of_declareExamples {d d' : Draft} {line : Nat} {orientation : Orientation}
    (h : d.declareExamples line orientation = .ok d') :
    d'.openBlock? = some (.opened orientation line) := by
  rcases declareExamples_eq_ok h with
    ⟨name, closed, hscenario, hclosed, rfl⟩ | ⟨closed, hnone, hclosed, rfl⟩
  · obtain ⟨-, journal, rfl⟩ := closeScenarioBlock_eq_ok hclosed
    simp [openBlock?, updateOpenScenario, hscenario]
  · obtain ⟨-, journal, rfl⟩ := closeFeatureBlock_eq_ok hclosed
    simp [openBlock?, hnone]

/-- A row that is added has as many cells as the header. -/
theorem addRow_eq_ok {d d' : Draft} {line : Nat} {text : Text}
    (h : d.addRow line text = .ok d') :
    (∀ b ∈ d.openBlock?, (Line.splitCells text).length = b.names.length) ∧
      d' = d.updateBlock fun b => { b with values := b.values ++ [Line.splitCells text] } := by
  unfold addRow at h
  simp only at h
  split at h
  · rename_i hnone
    rw [updateBlock_of_none hnone]
    exact ⟨by simp [hnone], (Except.ok.inj h).symm⟩
  · rename_i b hsome
    split at h
    · exact absurd h (fail_ne_ok _ _ _ _)
    · rename_i hlength
      refine ⟨?_, (Except.ok.inj h).symm⟩
      rw [hsome]
      rintro _ ⟨⟩
      exact Decidable.not_not.mp hlength

/-- A column that is added has a name, which is none of the earlier ones. -/
theorem addColumn_eq_ok {d d' : Draft} {line : Nat} {text : Text}
    (h : d.addColumn line text = .ok d') : ∃ name cells, Line.splitCells text = name :: cells ∧
      (∀ b ∈ d.openBlock?, name ∉ b.names) ∧ d' = d.updateBlock fun b =>
        { b with names := b.names ++ [name], values := b.values ++ [cells] } := by
  unfold addColumn at h
  split at h
  · exact absurd h (fail_ne_ok _ _ _ _)
  · rename_i name cells hcells
    refine ⟨name, cells, hcells, ?_⟩
    split at h
    · rename_i hnone
      rw [updateBlock_of_none hnone]
      exact ⟨by simp [hnone], (Except.ok.inj h).symm⟩
    · rename_i b hsome
      split at h
      · exact absurd h (fail_ne_ok _ _ _ _)
      · rename_i hnew
        refine ⟨?_, (Except.ok.inj h).symm⟩
        rw [hsome]
        rintro _ ⟨⟩
        exact hnew

/-- A step that is declared joins the steps of its owner and is open then. -/
theorem declareStep_eq_ok {d d' : Draft} {line : Nat} {raw clean : Text} {type : StepType}
    {c : Line.Classified} (h : d.declareStep line raw clean type c = .ok d') :
    (d.scenario ≠ none ∨ d.takesBackgroundStep = true) ∧ ∃ step steps,
      Step.ofLine type c.keyword c.text (Text.indentWidth raw) line = .ok step ∧
      d.steps? d.stepOwner = some steps ∧
      d' = (d.enter (.step type)).appendStep d.stepOwner step := by
  unfold declareStep at h
  split at h
  · exact absurd h (fail_ne_ok _ _ _ _)
  · rename_i hguard
    refine ⟨?_, ?_⟩
    · by_cases hscenario : d.scenario = none
      · exact Or.inr (by simpa [hscenario] using hguard)
      · exact Or.inl hscenario
    · unfold addStep at h
      split at h
      · exact absurd h (fail_ne_ok _ _ _ _)
      · rename_i step hstep
        split at h
        · exact absurd h (fail_ne_ok _ _ _ _)
        · rename_i steps hsteps
          exact ⟨step, steps, hstep, hsteps, (Except.ok.inj h).symm⟩

/-- While a scenario is open, a line that can be scanned declares a step if there are steps for it
to join. -/
theorem declareStep_of_scenario {d : Draft} {line : Nat} {raw clean : Text} {type : StepType}
    {c : Line.Classified} {step : Step} {steps : List Step} (h : d.scenario ≠ none)
    (hstep : Step.ofLine type c.keyword c.text (Text.indentWidth raw) line = .ok step)
    (hsteps : d.steps? d.stepOwner = some steps) :
    d.declareStep line raw clean type c =
      .ok ((d.enter (.step type)).appendStep d.stepOwner step) := by
  have hsteps' : (d.enter (.step type)).steps? (d.enter (.step type)).stepOwner = some steps :=
    hsteps
  rw [declareStep, if_neg fun hboth => h hboth.1, addStep, hstep]
  simp only [hsteps']
  rfl

end Draft

end FeatureDoc
