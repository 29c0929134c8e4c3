/-
# The tables of a document

Every example block of a document that is read is rectangular: a row is added to a horizontal block
only if it is as wide as the header, a column is added to a vertical block with its name, and a
block with ragged columns is a fault when it is closed.

* `Draft.block_origin_of_feed` : a closed block was closed before, or what remains of a block that
  was being read;
* `Draft.Tabular` : the invariant, and `Draft.Tabular.feed` : every line keeps it;
* `Feature.rectangular_of_parse`, `Feature.isEmpty_of_parse` : all blocks of a document that is read
  are rectangular, and have lines.
-/
import FeatureDoc.Proofs.Feature.Rectangle
import FeatureDoc.Proofs.Reading.Steps
import FeatureDoc.Proofs.Reading.Validity

namespace FeatureDoc

/-- All example blocks of a feature: those of the scenarios, then those of the feature itself. -/
def Feature.allExamples (f : Feature) : List ExampleBlock :=
  f.scenarios.flatMap Scenario.examples ++ f.examples

/-- The example blocks of a feature are those of its scenarios and its own. -/
theorem Feature.mem_allExamples {f : Feature} {b : ExampleBlock} :
    b ∈ f.allExamples ↔ (∃ sc ∈ f.scenarios, b ∈ sc.examples) ∨ b ∈ f.examples := by
  rw [allExamples, List.mem_append, List.mem_flatMap]

namespace Draft

/-- The blocks of a draft are tables, as far as they have been read. -/
structure Tabular (d : Draft) : Prop where
  /-- Blocks that are closed are rectangular. -/
  closed : ∀ b ∈ d.feature.allExamples, b.Rectangular
  /-- Blocks that are being read are filled line by line. -/
  reading : ∀ b, d.scenarioBlock = some b ∨ d.featureBlock = some b → b.Filled
  /-- Nothing stands above a header. -/
  header : d.mode = some .header → ∀ b, d.openBlock? = some b → b.values = []

/-- There are no blocks before the first line. -/
theorem tabular_start (path relativePath : Path) : (start path relativePath).Tabular :=
  ⟨by rintro b ⟨⟩, by rintro b (⟨⟨⟩⟩ | ⟨⟨⟩⟩), by rintro ⟨⟩⟩

/-! ## The closed blocks -/

/-- A change of the open scenario adds no block to the feature. -/
theorem examples_updateOpenScenario (d : Draft) (change : Scenario → Scenario) :
    (d.updateOpenScenario change).feature.examples = d.feature.examples := by
  unfold updateOpenScenario
  split <;> rfl

/-- A change of the open scenario that leaves its blocks as they are. -/
theorem allExamples_updateOpenScenario (d : Draft) (change : Scenario → Scenario)
    (h : ∀ sc, (change sc).examples = sc.examples) :
    (d.updateOpenScenario change).feature.allExamples = d.feature.allExamples := by
  rw [Feature.allExamples, flatMap_updateOpenScenario d h, examples_updateOpenScenario,
    Feature.allExamples]

/-- Changing the steps of an owner leaves all blocks as they are. -/
theorem allExamples_updateSteps (d : Draft) (change : List Step → List Step) (owner : Owner) :
    (d.updateSteps change owner).feature.allExamples = d.feature.allExamples := by
  cases owner with
  | background => rfl
  | scenario => exact allExamples_updateOpenScenario d _ fun _ => rfl

/-- Blocks that are added to the open scenario are the only new ones. -/
theorem mem_allExamples_of_withExamples {d : Draft} {blocks : List ExampleBlock}
    {b : ExampleBlock}
    (h : b ∈ (d.updateOpenScenario (withExamples blocks)).feature.allExamples) :
    b ∈ d.feature.allExamples ∨ b ∈ blocks := by
  rcases Feature.mem_allExamples.mp h with ⟨sc', hsc', hb⟩ | hb
  · obtain ⟨sc, hsc, hchanged⟩ := mem_scenarios_updateOpenScenario hsc'
    have hbefore : ∀ b' ∈ sc.examples, b' ∈ d.feature.allExamples := fun b' hb' =>
      Feature.mem_allExamples.mpr (Or.inl ⟨sc, hsc, hb'⟩)
    rcases hchanged with rfl | rfl
    · exact Or.inl (hbefore b hb)
    · exact (List.mem_append.mp hb).imp_left (hbefore b)
  · rw [examples_updateOpenScenario] at hb
    exact Or.inl (Feature.mem_allExamples.mpr (Or.inr hb))

/-- After the block of the open scenario is closed, a block is one of before, or what remains of it
and not ragged. -/
theorem mem_allExamples_of_closeScenarioBlock {d d' : Draft} {b : ExampleBlock}
    (h : d.closeScenarioBlock = .ok d') (hb : b ∈ d'.feature.allExamples) :
    b ∈ d.feature.allExamples ∨ raggedColumn? b = none ∧ b ∈ remaining d.scenarioBlock := by
  obtain ⟨heven, journal, rfl⟩ := closeScenarioBlock_eq_ok h
  exact (mem_allExamples_of_withExamples hb).imp_right fun hnew => ⟨heven b hnew, hnew⟩

/-- After the block of the feature is closed, a block is one of before, or what remains of it and
not ragged. -/
theorem mem_allExamples_of_closeFeatureBlock {d d' : Draft} {b : ExampleBlock}
    (h : d.closeFeatureBlock = .ok d') (hb : b ∈ d'.feature.allExamples) :
    b ∈ d.feature.allExamples ∨ raggedColumn? b = none ∧ b ∈ remaining d.featureBlock := by
  obtain ⟨heven, journal, rfl⟩ := closeFeatureBlock_eq_ok h
  rcases Feature.mem_allExamples.mp hb with hscenario | hfeature
  · exact Or.inl (Feature.mem_allExamples.mpr (Or.inl hscenario))
  · exact (List.mem_append.mp hfeature).imp (fun hold => Feature.mem_allExamples.mpr (Or.inr hold))
      fun hnew => ⟨heven b hnew, hnew⟩

/-- A block has been closed: it was closed before, or it is what remains of one that was being
read. -/
def Closed (d : Draft) (b : ExampleBlock) : Prop :=
  b ∈ d.feature.allExamples ∨ b ∈ remaining d.scenarioBlock ∨ b ∈ remaining d.featureBlock

/-- After both blocks are closed, a block was closed before, or is what remains of them and not
ragged. -/
theorem closed_of_closeBlocks {d d' : Draft} {b : ExampleBlock} (h : d.closeBlocks = .ok d')
    (hb : b ∈ d'.feature.allExamples) :
    b ∈ d.feature.allExamples ∨ raggedColumn? b = none ∧ d.Closed b := by
  obtain ⟨e, hscenario, hfeature⟩ := exists_of_bind_eq_ok h
  have hsame : e.featureBlock = d.featureBlock := by
    obtain ⟨-, journal, rfl⟩ := closeScenarioBlock_eq_ok hscenario
    rfl
  rcases mem_allExamples_of_closeFeatureBlock hfeature hb with hold | ⟨heven, hnew⟩
  · exact (mem_allExamples_of_closeScenarioBlock hscenario hold).imp_right fun ⟨heven, hnew⟩ =>
      ⟨heven, Or.inr (Or.inl hnew)⟩
  · exact Or.inr ⟨heven, Or.inr (Or.inr (hsame ▸ hnew))⟩

/-- After a block is opened, a block was closed before, or is what remains of the one before it and
not ragged. -/
theorem closed_of_declareExamples {d d' : Draft} {line : Nat} {orientation : Orientation}
    {b : ExampleBlock} (h : d.declareExamples line orientation = .ok d')
    (hb : b ∈ d'.feature.allExamples) :
    b ∈ d.feature.allExamples ∨ raggedColumn? b = none ∧ d.Closed b := by
  rcases declareExamples_eq_ok h with ⟨name, closed, -, hclosed, rfl⟩ | ⟨closed, -, hclosed, rfl⟩
  · exact (mem_allExamples_of_closeScenarioBlock hclosed hb).imp_right fun ⟨heven, hnew⟩ =>
      ⟨heven, Or.inr (Or.inl hnew)⟩
  · exact (mem_allExamples_of_closeFeatureBlock hclosed hb).imp_right fun ⟨heven, hnew⟩ =>
      ⟨heven, Or.inr (Or.inr hnew)⟩

/-- Opening a scenario that has no blocks adds none. -/
theorem mem_allExamples_of_openScenario {d : Draft} {sc : Scenario} {b : ExampleBlock}
    (hnone : sc.examples = []) (h : b ∈ (d.openScenario sc).feature.allExamples) :
    b ∈ d.feature.allExamples := by
  obtain ⟨journal, heq⟩ := openScenario_eq d sc
  rw [heq, Feature.mem_allExamples] at h
  rw [Feature.mem_allExamples]
  refine h.imp_left ?_
  rintro ⟨t, ht, hb⟩
  rcases Feature.eq_or_mem_of_mem_putScenario ht with rfl | hmem
  · rw [hnone] at hb
    cases hb
  · exact ⟨t, hmem, hb⟩

/-- Declaring a background leaves all blocks as they are. -/
theorem allExamples_declareBackground (d : Draft) (line : Nat) :
    (d.declareBackground line).feature.allExamples = d.feature.allExamples := by
  obtain ⟨journal, heq⟩ := declareBackground_eq d line
  rw [heq]
  rfl

/-- After a line that is taken up, a block was closed before, or the line declares something and
the block is what remains of one that was being read, and not ragged. -/
theorem Taken.block_origin {d d' : Draft} {line : Nat} {raw clean : Text} {c : Line.Classified}
    (h : Taken d line raw clean c d') {b : ExampleBlock} (hb : b ∈ d'.feature.allExamples) :
    b ∈ d.feature.allExamples ∨
      (c.kind ≠ none ∨ d.mode = some .examples ∨ d.mode = some .verticalExamples) ∧
        raggedColumn? b = none ∧ d.Closed b := by
  have hopened : ∀ (mode : Mode) {orientation : Orientation},
      (d.enter mode).declareExamples line orientation = .ok d' →
      b ∈ d.feature.allExamples ∨ raggedColumn? b = none ∧ d.Closed b :=
    fun mode _ hok => closed_of_declareExamples (d := d.enter mode) hok hb
  have hfilled : ∀ (mode : Mode) (change : ExampleBlock → ExampleBlock),
      b ∈ ((d.enter mode).updateBlock change).feature.allExamples → b ∈ d.feature.allExamples := by
    intro mode change hmem
    rwa [updateBlock_feature] at hmem
  cases h with
  | scenario closed hkind hclosed _ =>
    have hdeclares : c.kind ≠ none := by rcases hkind with hkind | hkind <;> simp [hkind]
    exact (closed_of_closeBlocks hclosed (mem_allExamples_of_openScenario rfl hb)).imp_right
      fun hnew => ⟨Or.inl hdeclares, hnew⟩
  | scenarioProse =>
    have hkept := allExamples_updateOpenScenario (d.enter .scenario)
      (fun sc => { sc with description := appendLine sc.description clean }) fun _ => rfl
    exact Or.inl (hkept ▸ hb)
  | background =>
    rw [allExamples_declareBackground] at hb
    exact Or.inl hb
  | examples _ hkind hok =>
    refine (hopened .examples hok).imp_right fun hnew => ⟨?_, hnew⟩
    exact hkind.imp (by simp +contextual) fun hplain => Or.inl hplain.2
  | verticalExamples _ hkind hok =>
    refine (hopened .verticalExamples hok).imp_right fun hnew => ⟨?_, hnew⟩
    exact hkind.imp (by simp +contextual) fun hplain => Or.inr hplain.2
  | header => exact Or.inl (hfilled .header _ hb)
  | row _ _ _ hadded =>
    obtain ⟨-, rfl⟩ := addRow_eq_ok hadded
    exact Or.inl (hfilled .row _ hb)
  | column _ _ _ hadded =>
    obtain ⟨name, cells, -, -, rfl⟩ := addColumn_eq_ok hadded
    exact Or.inl (hfilled .column _ hb)
  | step type _ _ hadded =>
    obtain ⟨-, step, steps, -, -, rfl⟩ := declareStep_eq_ok hadded
    have hkept := allExamples_updateSteps (d.enter (.step type)) (· ++ [step]) d.stepOwner
    exact Or.inl (hkept ▸ hb)
  | named | prose | backgroundProse | tag | nothing => exact Or.inl hb

/-- A line that continues a step leaves all blocks as they are. -/
theorem allExamples_capture (d : Draft) (raw : Text) :
    (d.capture raw).feature.allExamples = d.feature.allExamples := by
  unfold Draft.capture
  split
  · rfl
  · rename_i s hopen
    exact allExamples_updateSteps d (changeLast (Step.addLine · raw)) s.owner

/-- After any line, a block was closed before or is what remains of one that was being read. -/
theorem block_origin_of_feed {d d' : Draft} {line : Nat} {raw : Text}
    (h : d.feed line raw = .ok d') {b : ExampleBlock} (hb : b ∈ d'.feature.allExamples) :
    d.Closed b := by
  rcases feed_cases h with ⟨-, rfl⟩ | ⟨-, -, -, rfl⟩ | ⟨-, e, rfl, htaken⟩
  · rw [allExamples_capture] at hb
    exact Or.inl hb
  · exact Or.inl hb
  · exact (htaken.block_origin hb).elim Or.inl fun hnew => hnew.2.2

namespace Tabular

variable {d d' : Draft}

/-- What is closed and not ragged is rectangular. -/
theorem rectangular (h : d.Tabular) {b : ExampleBlock}
    (hb : b ∈ d.feature.allExamples ∨ raggedColumn? b = none ∧ d.Closed b) : b.Rectangular := by
  rcases hb with hold | ⟨heven, hold | hremains⟩
  · exact h.closed b hold
  · exact h.closed b hold
  · have hread := hremains.imp eq_some_of_mem_remaining eq_some_of_mem_remaining
    exact ExampleBlock.rectangular_of_raggedColumn? (h.reading b hread) heven

/-- Tables stay tables while no block is added and no header awaited. -/
theorem of_same (h : d.Tabular) (hclosed : d'.feature.allExamples = d.feature.allExamples)
    (hscenarioBlock : d'.scenarioBlock = d.scenarioBlock)
    (hfeatureBlock : d'.featureBlock = d.featureBlock) (hmode : d'.mode ≠ some .header) :
    d'.Tabular where
  closed := by
    rw [hclosed]
    exact h.closed
  reading := by
    rw [hscenarioBlock, hfeatureBlock]
    exact h.reading
  header := fun hheader => absurd hheader hmode

/-- A block that is opened has no lines. -/
theorem declareExamples (h : d.Tabular) {line : Nat} {orientation : Orientation}
    (hopened : d.declareExamples line orientation = .ok d') : d'.Tabular := by
  have hheader : ∀ b, d'.openBlock? = some b → b.values = [] := by
    intro b hb
    obtain rfl := Option.some.inj ((openBlock?_of_declareExamples hopened).symm.trans hb)
    rfl
  refine ⟨fun b hb => h.rectangular (closed_of_declareExamples hopened hb), ?_, fun _ => hheader⟩
  rcases declareExamples_eq_ok hopened with ⟨_, closed, -, hclosed, rfl⟩ | ⟨closed, -, hclosed, rfl⟩
  · obtain ⟨-, journal, rfl⟩ := closeScenarioBlock_eq_ok hclosed
    rintro b (⟨⟨⟩⟩ | hb)
    · exact ExampleBlock.filled_opened orientation line
    · exact h.reading b (Or.inr hb)
  · obtain ⟨-, journal, rfl⟩ := closeFeatureBlock_eq_ok hclosed
    rintro b (hb | ⟨⟨⟩⟩)
    · exact h.reading b (Or.inl hb)
    · exact ExampleBlock.filled_opened orientation line

/-- A line that fills the block keeps it filled line by line, if no header follows. -/
theorem updateBlock (h : d.Tabular) {change : ExampleBlock → ExampleBlock} {mode : Option Mode}
    (hchange : ∀ b, d.openBlock? = some b → b.Filled → (change b).Filled)
    (hmode : mode ≠ some .header) : Tabular { d.updateBlock change with mode } := by
  refine ⟨by simpa using h.closed, ?_, fun hheader => absurd hheader hmode⟩
  unfold openBlock? at hchange
  unfold Draft.updateBlock
  cases hscenario : d.scenario with
  | none =>
    rw [hscenario] at hchange
    rintro b (hb | hb)
    · exact h.reading b (Or.inl hb)
    · obtain ⟨b', hb', rfl⟩ := Option.map_eq_some_iff.mp hb
      exact hchange b' hb' (h.reading b' (Or.inr hb'))
  | some name =>
    rw [hscenario] at hchange
    rintro b (hb | hb)
    · obtain ⟨b', hb', rfl⟩ := Option.map_eq_some_iff.mp hb
      exact hchange b' hb' (h.reading b' (Or.inl hb'))
    · exact h.reading b (Or.inr hb)

/-! ## Every line -/

/-- Every line that is taken up leaves tables. -/
theorem taken {line : Nat} {raw clean : Text} {c : Line.Classified} (h : d.Tabular)
    (hfit : d.BlocksFit) (htaken : Taken d line raw clean c d') : d'.Tabular := by
  have henter : ∀ mode : Mode, mode ≠ .header → (d.enter mode).Tabular := fun mode hmode =>
    h.of_same rfl rfl rfl fun heq => hmode (Option.some.inj heq)
  cases htaken with
  | named => exact h.of_same rfl rfl rfl (by rintro ⟨⟩)
  | prose => exact h.of_same rfl rfl rfl (by rintro ⟨⟩)
  | scenario closed _ hclosed _ =>
    obtain ⟨journal, heq⟩ := openScenario_eq closed
      (.declared c.text c.keyword line closed.precedingTags)
    have hblocks : ∀ b ∈ (closed.openScenario
        (.declared c.text c.keyword line closed.precedingTags)).feature.allExamples,
        b.Rectangular := fun b hb => (henter .scenario (by decide)).rectangular
      (closed_of_closeBlocks hclosed (mem_allExamples_of_openScenario rfl hb))
    rw [heq] at hblocks ⊢
    obtain ⟨journal', rfl⟩ := closeBlocks_eq_ok hclosed
    exact ⟨hblocks, by rintro b (⟨⟨⟩⟩ | ⟨⟨⟩⟩), by rintro ⟨⟩⟩
  | scenarioProse =>
    exact h.of_same (allExamples_updateOpenScenario (d.enter .scenario) _ fun _ => rfl) rfl rfl
      (by rintro ⟨⟩)
  | background =>
    obtain ⟨journal, heq⟩ := declareBackground_eq (d.enter .background) line
    rw [heq]
    exact h.of_same rfl rfl rfl (by rintro ⟨⟩)
  | backgroundProse => exact h.of_same rfl rfl rfl (by rintro ⟨⟩)
  | examples _ _ hopened => exact (henter .examples (by decide)).declareExamples hopened
  | verticalExamples _ _ hopened =>
    exact (henter .verticalExamples (by decide)).declareExamples hopened
  | header _ hmode =>
    -- nothing stands above the header, so that no row is too short for it
    have hheader : (d.enter .header).Tabular := { h with header := fun _ => h.header hmode }
    refine hheader.updateBlock (fun b' hb' _ => ?_) (by rintro ⟨⟩)
    have hnone := h.header hmode b' hb'
    obtain ⟨b, hb, horientation⟩ := hfit.horizontal (Or.inl hmode)
    obtain rfl := Option.some.inj (hb.symm.trans hb')
    refine ⟨fun _ row hrow => ?_, fun hvertical => nomatch horientation.symm.trans hvertical⟩
    rw [hnone] at hrow
    cases hrow
  | row _ _ hmode hadded =>
    have hrow := henter .row (by decide)
    obtain ⟨hlength, rfl⟩ := addRow_eq_ok hadded
    have hmode' : (d.enter .row).mode ≠ some .header := by rintro ⟨⟩
    rw [← updateBlock_mode (d.enter .row)] at hmode'
    refine hrow.updateBlock (fun b hb hfilled => ?_) hmode'
    obtain ⟨b', hb', horientation⟩ := hfit.horizontal (Or.inr hmode)
    obtain rfl := Option.some.inj (hb.symm.trans hb')
    refine ⟨fun _ row hrow => ?_, fun hvertical => nomatch horientation.symm.trans hvertical⟩
    rcases List.mem_append.mp hrow with hold | hnew
    · exact hfilled.rows horientation row hold
    · rw [List.mem_singleton.mp hnew]
      exact hlength b hb
  | column _ _ hmode hadded =>
    have hcolumn := henter .column (by decide)
    obtain ⟨name, cells, -, -, rfl⟩ := addColumn_eq_ok hadded
    have hmode' : (d.enter .column).mode ≠ some .header := by rintro ⟨⟩
    rw [← updateBlock_mode (d.enter .column)] at hmode'
    refine hcolumn.updateBlock (fun b hb hfilled => ?_) hmode'
    obtain ⟨b', hb', horientation⟩ := hfit.vertical hmode
    obtain rfl := Option.some.inj (hb.symm.trans hb')
    refine ⟨fun hhorizontal => absurd (horientation.symm.trans hhorizontal) (by decide),
      fun _ => ?_⟩
    simp only [List.length_append, hfilled.columns horientation, List.length_singleton]
  | step type _ _ hadded =>
    obtain ⟨-, step, steps, -, -, rfl⟩ := declareStep_eq_ok hadded
    have hkept := allExamples_updateSteps (d.enter (.step type)) (· ++ [step]) d.stepOwner
    exact h.of_same hkept rfl rfl (by rintro ⟨⟩)
  | tag => exact henter .tag (by decide)
  | nothing _ hmode =>
    exact h.of_same rfl rfl rfl fun hheader => nomatch hmode.symm.trans hheader

/-- Every line leaves tables. -/
theorem feed {line : Nat} {raw : Text} (h : d.Tabular) (hd : d.Valid)
    (hfeed : d.feed line raw = .ok d') : d'.Tabular := by
  rcases feed_cases hfeed with ⟨-, rfl⟩ | ⟨-, -, -, rfl⟩ | ⟨-, e, rfl, htaken⟩
  · have hclosed : ∀ b ∈ (d.capture raw).feature.allExamples, b.Rectangular := by
      rw [allExamples_capture]
      exact h.closed
    unfold Draft.capture at hclosed ⊢
    split
    · exact h
    · rename_i s hopen
      rw [hopen] at hclosed
      exact ⟨hclosed, h.reading, h.header⟩
  · exact { h with }
  · have hbefore : (d.beforeTaking line raw).Tabular := { h with }
    have hfit : (d.beforeTaking line raw).BlocksFit := { hd with }
    exact { hbefore.taken hfit htaken with }

end Tabular

/-- Any lines that cause no fault leave tables. -/
theorem tabular_of_feedAll {path relativePath : Path} {ls : List Text} {d : Draft}
    (h : (start path relativePath).feedAll 1 ls = .ok d) : d.Tabular :=
  (feedAll_induction (P := fun _ d => d.Valid ∧ d.Tabular)
    (fun ⟨hvalid, htabular⟩ hfeed => ⟨valid_of_feed hvalid hfeed, htabular.feed hvalid hfeed⟩)
    ⟨valid_start path relativePath, tabular_start path relativePath⟩ h).2

end Draft

/-- All example blocks of a document that is read are rectangular. -/
theorem Feature.rectangular_of_parse {t : Text} {f : Feature} (h : parse t = .ok f) :
    ∀ b ∈ f.allExamples, b.Rectangular := by
  obtain ⟨d, e, hlines, hend, rfl⟩ := Draft.exists_of_parse_eq_ok h
  have htabular := Draft.tabular_of_feedAll hlines
  obtain ⟨closed, hclosed, hfinished⟩ := exists_of_bind_eq_ok hend
  obtain rfl := Except.ok.inj hfinished
  have hopen : Draft.Tabular { d with openStep := none } := { htabular with }
  exact fun b hb => hopen.rectangular (Draft.closed_of_closeBlocks hclosed hb)

/-- All example blocks of a document that is read have lines. -/
theorem Feature.isEmpty_of_parse {t : Text} {f : Feature} (h : parse t = .ok f) :
    ∀ b ∈ f.allExamples, b.isEmpty = false := by
  have hclosed : ∀ d : Draft, (∀ b ∈ d.feature.allExamples, b.isEmpty = false) →
      ∀ b, d.Closed b → b.isEmpty = false := by
    rintro d hd b (hold | hnew | hnew)
    · exact hd b hold
    · exact Draft.isEmpty_of_mem_remaining hnew
    · exact Draft.isEmpty_of_mem_remaining hnew
  obtain ⟨d, e, hlines, hend, rfl⟩ := Draft.exists_of_parse_eq_ok h
  have hlast : ∀ b ∈ d.feature.allExamples, b.isEmpty = false :=
    Draft.feedAll_induction (P := fun _ d => ∀ b ∈ d.feature.allExamples, b.isEmpty = false)
      (fun hd hfeed b hb => hclosed _ hd b (Draft.block_origin_of_feed hfeed hb))
      (fun b hb => absurd hb List.not_mem_nil) hlines
  obtain ⟨closed, hends, hfinished⟩ := exists_of_bind_eq_ok hend
  obtain rfl := Except.ok.inj hfinished
  intro b hb
  exact hclosed { d with openStep := none } hlast b
    ((Draft.closed_of_closeBlocks hends hb).elim Or.inl And.right)

end FeatureDoc
