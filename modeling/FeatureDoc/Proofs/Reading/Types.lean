/-
# The types of steps

A step with the keyword of a type has that type. Another step goes on with the one before it, and
has its type. While lines are read the type that a step would go on with is in the mode; this
module shows that it is the type of the last step of the list that the step joins.

* `Step.Typed` : the steps of a list have the types that their keywords say;
* `Draft.TypesFit` : the invariant, and `Draft.TypesFit.feed` : every line keeps it;
* `Feature.types_of_parse` : the steps of documents that can be read.
-/
import FeatureDoc.Proofs.Reading.Capture

namespace FeatureDoc

/-! ## Keywords -/

namespace Line

/-- A line of a kind has the keyword of a beginning of this kind. -/
theorem exists_lead_of_classify {clean : Text} {kind : Kind}
    (h : (classify clean).kind = some kind) :
    ∃ lead ∈ leads, lead.2 = kind ∧ (classify clean).keyword = Text.trimEnd lead.1 := by
  unfold classify at h ⊢
  cases hfound : leads.findSome? (classifyBy? clean) with
  | none =>
    rw [hfound] at h
    cases h
  | some c =>
    obtain ⟨lead, hlead, hc⟩ := List.exists_of_findSome?_eq_some hfound
    rw [hfound, Option.getD_some, kind_of_classifyBy? hc] at h
    obtain ⟨rest, -, rfl⟩ := Option.map_eq_some_iff.mp hc
    exact ⟨lead, hlead, Option.some.inj h, rfl⟩

/-- A line that declares a step by its own keyword has the keyword of the type. -/
theorem keyword_of_step {clean : Text} {type : StepType}
    (h : (classify clean).kind = some (.step type)) :
    (classify clean).keyword = type.keyword := by
  have hleads : ∀ lead ∈ leads, lead.2 = .step type → Text.trimEnd lead.1 = type.keyword := by
    cases type <;> decide
  obtain ⟨lead, hlead, hkind, hkeyword⟩ := exists_lead_of_classify h
  exact hkeyword.trans (hleads lead hlead hkind)

/-- A line that goes on with the step before it has one of two keywords. -/
theorem keyword_of_continuation {clean : Text} (h : (classify clean).kind = some .continuation) :
    (classify clean).keyword = "And".toList ∨ (classify clean).keyword = "But".toList := by
  have hleads : ∀ lead ∈ leads, lead.2 = .continuation →
      Text.trimEnd lead.1 = "And".toList ∨ Text.trimEnd lead.1 = "But".toList := by
    decide
  obtain ⟨lead, hlead, hkind, hkeyword⟩ := exists_lead_of_classify h
  exact hkeyword ▸ hleads lead hlead hkind

/-- A plain line has no keyword. -/
theorem keyword_of_plain {clean : Text} (h : (classify clean).kind = none) :
    (classify clean).keyword = [] := by
  unfold classify at h ⊢
  cases hfound : leads.findSome? (classifyBy? clean) with
  | none => rfl
  | some c =>
    obtain ⟨lead, -, hc⟩ := List.exists_of_findSome?_eq_some hfound
    rw [hfound, Option.getD_some, kind_of_classifyBy? hc] at h
    cases h

end Line

/-! ## Lists of steps -/

namespace Step

/-- A step below others has the type that its keyword says, or it goes on with the last of them and
has its type. -/
def FitsBelow (above : List Step) (s : Step) : Prop :=
  (∃ type : StepType, s.keyword = type.keyword ∧ s.type = type) ∨
    (s.keyword = "And".toList ∨ s.keyword = "But".toList ∨ s.keyword = []) ∧
      ∃ last, above.getLast? = some last ∧ last.type = s.type

/-- A step that a line declares has the type and the keyword of the line. -/
theorem type_and_keyword_of_ofLine {type : StepType} {keyword text : Text} {indent line : Nat}
    {s : Step} (h : ofLine type keyword text indent line = .ok s) :
    s.type = type ∧ s.keyword = keyword := by
  obtain ⟨scanned, -, hok⟩ := exists_of_bind_eq_ok h
  obtain rfl := Except.ok.inj hok
  exact ⟨rfl, rfl⟩

/-- Every step of a list fits below those above it. -/
def Typed (steps : List Step) : Prop :=
  ∀ (i : Nat) (s : Step), steps[i]? = some s → s.FitsBelow (steps.take i)

/-- No steps fit. -/
theorem typed_nil : Typed [] := fun _ _ hs => nomatch hs

/-- One more step fits below the others. -/
theorem typed_concat {steps : List Step} {s : Step} :
    Typed (steps ++ [s]) ↔ Typed steps ∧ s.FitsBelow steps := by
  constructor
  · intro h
    constructor
    · intro i s' hs'
      have hi := (List.getElem?_eq_some_iff.mp hs').1
      have hfits := h i s' ((List.getElem?_append_left hi).trans hs')
      rwa [List.take_append_of_le_length (Nat.le_of_lt hi)] at hfits
    · have hfits := h steps.length s List.getElem?_concat_length
      rwa [List.take_left] at hfits
  · rintro ⟨hsteps, hs⟩ i s' hs'
    rcases Nat.lt_or_ge i steps.length with hi | hi
    · rw [List.getElem?_append_left hi] at hs'
      rw [List.take_append_of_le_length (Nat.le_of_lt hi)]
      exact hsteps i s' hs'
    · have hlt := (List.getElem?_eq_some_iff.mp hs').1
      rw [List.length_append, List.length_singleton] at hlt
      obtain rfl : i = steps.length := by omega
      rw [List.getElem?_concat_length] at hs'
      rw [List.take_left, ← Option.some.inj hs']
      exact hs

/-- A line that the last step captures does not matter. -/
theorem Typed.changeLast {steps : List Step} (h : Typed steps) (raw : Text) :
    Typed (Draft.changeLast (Step.addLine · raw) steps) := by
  obtain rfl | ⟨above, last, rfl⟩ := List.eq_nil_or_concat steps
  · exact h
  · rw [List.concat_eq_append] at h ⊢
    rw [Draft.changeLast_concat]
    rw [typed_concat] at h ⊢
    exact ⟨h.1, h.2⟩

end Step

/-- The lists of steps of a feature: those of the background, if there is one, and those of every
scenario. -/
def Feature.stepLists (f : Feature) : List (List Step) :=
  f.background.toList.map Background.steps ++ f.scenarios.map Scenario.steps

/-- The lists of steps are that of the background and those of the scenarios. -/
theorem Feature.mem_stepLists {f : Feature} {steps : List Step} : steps ∈ f.stepLists ↔
    (∃ b, f.background = some b ∧ b.steps = steps) ∨ ∃ sc ∈ f.scenarios, sc.steps = steps := by
  simp only [stepLists, List.mem_append, List.mem_map, Option.mem_toList]

namespace Draft

/-! ## Operations that keep the lists -/

/-- A change of the open scenario that keeps its steps keeps all lists. -/
theorem stepLists_updateOpenScenario (d : Draft) {change : Scenario → Scenario}
    (h : ∀ sc, (change sc).steps = sc.steps) :
    (d.updateOpenScenario change).feature.stepLists = d.feature.stepLists := by
  rw [Feature.stepLists, background_updateOpenScenario, map_updateOpenScenario d h,
    Feature.stepLists]

/-- Closing both blocks keeps all lists. -/
theorem stepLists_closeBlocks {d d' : Draft} (h : d.closeBlocks = .ok d') :
    d'.feature.stepLists = d.feature.stepLists := by
  obtain ⟨journal, rfl⟩ := closeBlocks_eq_ok h
  exact stepLists_updateOpenScenario d fun _ => rfl

/-- Opening a block keeps all lists, and the next line is none of a step. -/
theorem stepLists_declareExamples {d d' : Draft} {line : Nat} {orientation : Orientation}
    (h : d.declareExamples line orientation = .ok d') :
    (∀ type, d'.mode ≠ some (.step type)) ∧ d'.feature.stepLists = d.feature.stepLists := by
  have hmode : ∀ type, some (fillMode orientation) ≠ some (Mode.step type) := by
    intro type
    cases orientation <;> rintro ⟨⟩
  obtain ⟨own, shared, _, _, journal, rfl⟩ := exists_of_declareExamples h
  exact ⟨hmode, stepLists_updateOpenScenario d fun _ => rfl⟩

/-- The steps of an owner are one of the lists. -/
theorem mem_stepLists_of_steps? {d : Draft} {owner : Owner} {steps : List Step}
    (h : d.steps? owner = some steps) : steps ∈ d.feature.stepLists := by
  rw [Feature.mem_stepLists]
  cases owner with
  | background => exact Or.inl (Option.map_eq_some_iff.mp h)
  | scenario =>
    obtain ⟨sc, hsc, rfl⟩ := Option.map_eq_some_iff.mp h
    obtain ⟨name, -, hfound⟩ := Option.bind_eq_some_iff.mp hsc
    exact Or.inr ⟨sc, Feature.mem_of_scenario? hfound, rfl⟩

/-- After a change of the steps of an owner a list is one of before or that of the owner. -/
theorem mem_stepLists_of_updateSteps {d : Draft}
    (hdistinct : (d.feature.scenarios.map Scenario.name).Nodup) {change : List Step → List Step}
    {owner : Owner} {steps' : List Step}
    (h : steps' ∈ (d.updateSteps change owner).feature.stepLists) :
    steps' ∈ d.feature.stepLists ∨
      ∃ steps, d.steps? owner = some steps ∧ steps' = change steps := by
  rw [Feature.mem_stepLists] at h ⊢
  cases owner with
  | background =>
    rcases h with ⟨b', hb', rfl⟩ | hscenario
    · obtain ⟨b, hb, rfl⟩ := Option.map_eq_some_iff.mp hb'
      exact Or.inr ⟨b.steps, Option.map_eq_some_iff.mpr ⟨b, hb, rfl⟩, rfl⟩
    · exact Or.inl (Or.inr hscenario)
  | scenario =>
    rcases h with hbackground | ⟨sc', hsc', rfl⟩
    · have hopen : (d.updateSteps change .scenario).feature.background = d.feature.background :=
        background_updateOpenScenario d _
      exact Or.inl (Or.inl (hopen ▸ hbackground))
    · simp only [updateSteps, updateOpenScenario] at hsc'
      cases hopen : d.scenario with
      | none =>
        rw [hopen] at hsc'
        exact Or.inl (Or.inr ⟨sc', hsc', rfl⟩)
      | some name =>
        rw [hopen] at hsc'
        obtain ⟨sc, hsc, rfl⟩ := List.mem_map.mp hsc'
        split
        · rename_i hname
          have hfound : d.openScenario? = some sc := by
            rw [openScenario?, hopen, Option.bind_some, ← hname]
            exact Feature.scenario?_of_mem hdistinct hsc
          exact Or.inr ⟨sc.steps, by rw [steps?, hfound, Option.map_some], rfl⟩
        · exact Or.inl (Or.inr ⟨sc, hsc, rfl⟩)

/-! ## Lines that are taken up -/

/-- A line that is taken up adds the step that it declares, or leaves lists of before and empty
ones, and the next line is none of a step. -/
theorem Taken.joins_or_keeps {d d' : Draft} {line : Nat} {raw clean : Text} {c : Line.Classified}
    (h : Taken d line raw clean c d') :
    (∃ type step steps, (c.kind = some (.step type) ∨
        (c.kind = some .continuation ∨ c.kind = none) ∧ d.mode = some (.step type)) ∧
      Step.ofLine type c.keyword c.text (Text.indentWidth raw) line = .ok step ∧
      d.steps? d.stepOwner = some steps ∧
      d' = (d.enter (.step type)).appendStep d.stepOwner step) ∨
    (∀ type, d'.mode ≠ some (.step type)) ∧
      ∀ steps ∈ d'.feature.stepLists, steps ∈ d.feature.stepLists ∨ steps = [] := by
  have hkept : (∀ type, d'.mode ≠ some (.step type)) ∧
      d'.feature.stepLists = d.feature.stepLists →
      (∀ type, d'.mode ≠ some (.step type)) ∧
        ∀ steps ∈ d'.feature.stepLists, steps ∈ d.feature.stepLists ∨ steps = [] := by
    rintro ⟨hmode, hlists⟩
    exact ⟨hmode, fun _ hsteps => Or.inl (hlists ▸ hsteps)⟩
  have hopens : ∀ (mode : Mode) {orientation : Orientation},
      (d.enter mode).declareExamples line orientation = .ok d' →
      (∀ type, d'.mode ≠ some (.step type)) ∧ d'.feature.stepLists = d.feature.stepLists :=
    fun mode _ hopened => stepLists_declareExamples (d := d.enter mode) hopened
  have hfilled : ∀ (mode : Mode) (change : ExampleBlock → ExampleBlock),
      ((d.enter mode).updateBlock change).feature.stepLists = d.feature.stepLists := by
    intro mode change
    rw [updateBlock_feature]
    rfl
  cases h with
  | named => exact Or.inr (hkept ⟨by rintro _ ⟨⟩, rfl⟩)
  | prose => exact Or.inr (hkept ⟨by rintro _ ⟨⟩, rfl⟩)
  | scenario closed _ hclosed _ =>
    obtain ⟨journal, heq⟩ := openScenario_eq closed
      (.declared c.text c.keyword line closed.precedingTags)
    have hmode : closed.mode = some .scenario := by
      obtain ⟨journal', rfl⟩ := closeBlocks_eq_ok hclosed
      rfl
    have hlists : closed.feature.stepLists = d.feature.stepLists :=
      stepLists_closeBlocks (d := d.enter .scenario) hclosed
    rw [heq, ← hlists]
    refine Or.inr ⟨fun type => hmode.trans_ne (by rintro ⟨⟩), fun steps hsteps => ?_⟩
    rw [Feature.mem_stepLists] at hsteps ⊢
    rcases hsteps with hbackground | ⟨sc, hsc, rfl⟩
    · exact Or.inl (Or.inl hbackground)
    · rcases Feature.eq_or_mem_of_mem_putScenario hsc with rfl | hmem
      · exact Or.inr rfl
      · exact Or.inl (Or.inr ⟨sc, hmem, rfl⟩)
  | scenarioProse =>
    refine Or.inr (hkept ⟨by rintro _ ⟨⟩, ?_⟩)
    exact stepLists_updateOpenScenario (d.enter .scenario) fun _ => rfl
  | background =>
    obtain ⟨journal, heq⟩ := declareBackground_eq (d.enter .background) line
    rw [heq]
    refine Or.inr ⟨by rintro _ ⟨⟩, fun steps hsteps => ?_⟩
    rw [Feature.mem_stepLists] at hsteps ⊢
    rcases hsteps with ⟨b, ⟨⟩, rfl⟩ | hscenario
    · exact Or.inr rfl
    · exact Or.inl (Or.inr hscenario)
  | backgroundProse =>
    refine Or.inr (hkept ⟨by rintro _ ⟨⟩, ?_⟩)
    unfold Feature.stepLists describeBackground Feature.updateBackground
    cases hbackground : d.feature.background <;> simp [enter, hbackground]
  | examples _ _ hopened => exact Or.inr (hkept (hopens .examples hopened))
  | verticalExamples _ _ hopened => exact Or.inr (hkept (hopens .verticalExamples hopened))
  | header => exact Or.inr (hkept ⟨by rintro _ ⟨⟩, hfilled _ _⟩)
  | row _ _ _ hadded =>
    obtain ⟨-, rfl⟩ := addRow_eq_ok hadded
    exact Or.inr (hkept ⟨fun type => (updateBlock_mode _ _).trans_ne (by rintro ⟨⟩), hfilled _ _⟩)
  | column _ _ _ hadded =>
    obtain ⟨name, cells, -, -, rfl⟩ := addColumn_eq_ok hadded
    exact Or.inr (hkept ⟨fun type => (updateBlock_mode _ _).trans_ne (by rintro ⟨⟩), hfilled _ _⟩)
  | step type _ hkind hadded =>
    obtain ⟨-, step, steps, hstep, hsteps, rfl⟩ := declareStep_eq_ok hadded
    exact Or.inl ⟨type, step, steps, hkind, hstep, hsteps, rfl⟩
  | tag => exact Or.inr (hkept ⟨by rintro _ ⟨⟩, rfl⟩)
  | nothing _ hmode => exact Or.inr (hkept ⟨fun type => hmode.trans_ne (by rintro ⟨⟩), rfl⟩)

/-! ## The invariant -/

/-- The types of the steps of a draft: they are as the keywords say, and the type that the next
step would go on with is that of the last step before it. -/
structure TypesFit (d : Draft) : Prop where
  lists : ∀ steps ∈ d.feature.stepLists, Step.Typed steps
  last : ∀ type, d.mode = some (.step type) →
    ∃ above s, d.steps? d.stepOwner = some (above ++ [s]) ∧ s.type = type

/-- Before the first line there is no step. -/
theorem typesFit_start (path relativePath : Path) : (start path relativePath).TypesFit where
  lists := fun _ hsteps => absurd hsteps List.not_mem_nil
  last := nofun

/-- The steps of an owner after a change of those of another one. -/
theorem steps?_updateSteps_of_ne (d : Draft) (change : List Step → List Step)
    {owner other : Owner} (h : owner ≠ other) :
    (d.updateSteps change owner).steps? other = d.steps? other := by
  cases owner with
  | background =>
    cases other with
    | background => exact absurd rfl h
    | scenario => rfl
  | scenario =>
    cases other with
    | background =>
      exact congrArg (Option.map Background.steps) (background_updateOpenScenario d _)
    | scenario => exact absurd rfl h

/-- The next step has the same owner after a change of the steps of any owner. -/
theorem stepOwner_updateSteps (d : Draft) (change : List Step → List Step) (owner : Owner) :
    (d.updateSteps change owner).stepOwner = d.stepOwner := by
  have hsome : (d.updateSteps change owner).feature.background.isSome =
      d.feature.background.isSome := by
    rw [Bool.eq_iff_iff, Option.isSome_iff_ne_none, Option.isSome_iff_ne_none, Ne,
      background_updateSteps_eq_none]
  rw [stepOwner, hsome]
  rfl

namespace TypesFit

variable {d d' : Draft} {raw : Text}

/-- A line that is captured changes no type. -/
theorem capture (h : d.TypesFit) (hdistinct : (d.feature.scenarios.map Scenario.name).Nodup) :
    (d.capture raw).TypesFit := by
  unfold Draft.capture
  cases d.openStep with
  | none => exact h
  | some o =>
    constructor
    · intro steps hsteps
      rcases mem_stepLists_of_updateSteps hdistinct hsteps with hold | ⟨steps, hold, rfl⟩
      · exact h.lists steps hold
      · exact (h.lists steps (mem_stepLists_of_steps? hold)).changeLast raw
    · intro type hmode
      obtain ⟨above, s, hsteps, htype⟩ := h.last type hmode
      show ∃ above s, (d.updateSteps _ o.owner).steps? (d.updateSteps _ o.owner).stepOwner = _ ∧ _
      rw [stepOwner_updateSteps]
      by_cases howner : o.owner = d.stepOwner
      · refine ⟨above, s.addLine raw, ?_, htype⟩
        rw [howner, steps?_updateSteps, hsteps, Option.map_some, changeLast_concat]
      · exact ⟨above, s, (steps?_updateSteps_of_ne d _ howner).trans hsteps, htype⟩

/-- A step that is declared has the type that its keyword says, or that of the step before it. -/
theorem taken {line : Nat} (h : d.TypesFit)
    (hdistinct : (d.feature.scenarios.map Scenario.name).Nodup)
    (htaken : Taken d line raw (Line.stripComment raw) (Line.classify (Line.stripComment raw)) d') :
    d'.TypesFit := by
  rcases htaken.joins_or_keeps with ⟨type, step, steps, hkind, hstep, hsteps, rfl⟩ | ⟨hmode, hlists⟩
  · obtain ⟨htype', hkeyword⟩ := Step.type_and_keyword_of_ofLine hstep
    constructor
    · intro steps' hsteps'
      have hjoined : steps' ∈
          ((d.enter (.step type)).updateSteps (· ++ [step]) d.stepOwner).feature.stepLists :=
        hsteps'
      rcases mem_stepLists_of_updateSteps (d := d.enter (.step type)) hdistinct hjoined with
        hold | ⟨steps'', hold, rfl⟩
      · exact h.lists steps' hold
      · obtain rfl := Option.some.inj (hsteps.symm.trans hold)
        refine Step.typed_concat.mpr ⟨h.lists steps (mem_stepLists_of_steps? hsteps), ?_⟩
        rcases hkind with hkind | ⟨hkind, hmode⟩
        · exact Or.inl ⟨type, hkeyword.trans (Line.keyword_of_step hkind), htype'⟩
        · right
          obtain ⟨above, last, hlast, htype⟩ := h.last type hmode
          obtain rfl := Option.some.inj (hsteps.symm.trans hlast)
          refine ⟨?_, last, List.getLast?_concat, htype.trans htype'.symm⟩
          rw [hkeyword]
          rcases hkind with hkind | hkind
          · exact (Line.keyword_of_continuation hkind).imp_right Or.inl
          · exact Or.inr (Or.inr (Line.keyword_of_plain hkind))
    · rintro _ ⟨⟩
      refine ⟨steps, step, ?_, htype'⟩
      have howner : ((d.enter (.step type)).appendStep d.stepOwner step).stepOwner = d.stepOwner :=
        stepOwner_updateSteps (d.enter (.step type)) (· ++ [step]) d.stepOwner
      rw [howner, steps?_appendStep]
      exact congrArg (Option.map _) hsteps
  · constructor
    · intro steps hsteps
      rcases hlists steps hsteps with hold | rfl
      · exact h.lists steps hold
      · exact Step.typed_nil
    · exact fun type hstep => absurd hstep (hmode type)

/-- Every line keeps the types. -/
theorem feed {line : Nat} (h : d.TypesFit)
    (hdistinct : (d.feature.scenarios.map Scenario.name).Nodup)
    (hfeed : d.feed line raw = .ok d') : d'.TypesFit := by
  rcases feed_cases hfeed with ⟨-, rfl⟩ | ⟨-, -, -, rfl⟩ | ⟨-, e, rfl, htaken⟩
  · exact h.capture hdistinct
  · exact { h with }
  · have hbefore : (d.beforeTaking line raw).TypesFit := { h with }
    exact { hbefore.taken hdistinct htaken with }

end TypesFit

/-- Any lines that cause no fault lead to steps with the types that their keywords say. -/
theorem typesFit_of_feedAll {path relativePath : Path} {ls : List Text} {d : Draft}
    (h : (start path relativePath).feedAll 1 ls = .ok d) : d.TypesFit :=
  (feedAll_induction_lines
    (P := fun done d => (start path relativePath).feedAll 1 done = .ok d ∧ d.TypesFit)
    (fun ⟨hdone, hfit⟩ hfeed =>
      ⟨feedAll_concat hdone hfeed, hfit.feed (distinct_of_feedAll hdone) hfeed⟩)
    ⟨rfl, typesFit_start path relativePath⟩ h).2

end Draft

/-! ## Whole documents -/

/-- In the background and in every scenario of a document that can be read, a step with the keyword
of a type has that type, and every other step stands below one whose type it has. -/
theorem Feature.types_of_parse {t : Text} {f : Feature} (h : parse t = .ok f) {steps : List Step}
    (hsteps : (∃ b, f.background = some b ∧ b.steps = steps) ∨ ∃ sc ∈ f.scenarios, sc.steps = steps)
    {i : Nat} {s : Step} (hs : steps[i]? = some s) :
    (∀ type : StepType, s.keyword = type.keyword → s.type = type) ∧
    ((∀ type : StepType, s.keyword ≠ type.keyword) →
      (s.keyword = "And".toList ∨ s.keyword = "But".toList ∨ s.keyword = []) ∧
      0 < i ∧ ∃ last, steps[i - 1]? = some last ∧ last.type = s.type) := by
  obtain ⟨d, e, hlines, hend, rfl⟩ := Draft.exists_of_parse_eq_ok h
  obtain ⟨closed, hclosed, hfinished⟩ := exists_of_bind_eq_ok hend
  obtain rfl := Except.ok.inj hfinished
  have hlists : closed.feature.stepLists = d.feature.stepLists :=
    Draft.stepLists_closeBlocks (d := { d with openStep := none }) hclosed
  have hmem : steps ∈ closed.feature.stepLists := Feature.mem_stepLists.mpr hsteps
  have hfits := (Draft.typesFit_of_feedAll hlines).lists steps (hlists ▸ hmem) i s hs
  -- no keyword of a type is one of a step that goes on with another
  have hother : ∀ type : StepType, s.keyword = type.keyword →
      ¬(s.keyword = "And".toList ∨ s.keyword = "But".toList ∨ s.keyword = []) := by
    rintro type hkeyword
    rw [hkeyword]
    cases type <;> decide
  have hinj : ∀ type type' : StepType, type.keyword = type'.keyword → type = type' := by
    intro type type'
    cases type <;> cases type' <;> decide
  constructor
  · intro type hkeyword
    rcases hfits with ⟨type', hkeyword', htype⟩ | ⟨hnone, -⟩
    · exact htype.trans (hinj _ _ (hkeyword'.symm.trans hkeyword))
    · exact absurd hnone (hother type hkeyword)
  · intro hnone
    rcases hfits with ⟨type, hkeyword, -⟩ | ⟨hkeyword, last, hlast, htype⟩
    · exact absurd hkeyword (hnone type)
    · refine ⟨hkeyword, ?_⟩
      cases i with
      | zero => cases hlast
      | succ i =>
        have hi := (List.getElem?_eq_some_iff.mp hs).1
        have htake : steps.take (i + 1) = steps.take i ++ [steps[i]] := by
          rw [List.take_succ_eq_append_getElem (Nat.lt_of_succ_lt hi)]
        rw [htake, List.getLast?_concat] at hlast
        obtain rfl := Option.some.inj hlast
        exact ⟨Nat.succ_pos i, _, List.getElem?_eq_getElem (Nat.lt_of_succ_lt hi), htype⟩

/-- A step without a keyword below an outcome, after a table, tags and a background between the
steps. -/
theorem Feature.types_of_parse_of_plain :
    let t := Text.unlines ["Scenario: S", "When c", "But d", "  And more", "Examples:", "| x |",
      "| 1 |", "@t", "Background:", "Then e", "# nothing", "f"]
    ∃ f sc s last, parse t = .ok f ∧ sc ∈ f.scenarios ∧ sc.steps[3]? = some s ∧ s.keyword = [] ∧
      sc.steps[2]? = some last ∧ last.type = s.type := by
  intro t
  have hread : parse t = .ok _ := rfl
  obtain ⟨-, hplain⟩ := types_of_parse hread (Or.inr ⟨_, List.mem_cons_self, rfl⟩) (i := 3) rfl
  obtain ⟨-, -, last, hlast, htype⟩ := hplain (by rintro ⟨⟩ <;> exact nofun)
  exact ⟨_, _, _, last, hread, List.mem_cons_self, rfl, rfl, hlast, htype⟩

end FeatureDoc
