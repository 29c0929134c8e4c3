/-
# Where the steps of a document come from

Every step of a document comes from the line that declares it, and from the lines that it captures
one after the other. What holds of a step that has just been declared, and is kept when a line
continues it, therefore holds of all steps.

* `Draft.step_origin_of_feed` : what one line does to the steps;
* `Feature.forall_step_of_parse` : what holds of all steps of a document that is read.
-/
import FeatureDoc.Proofs.Reading.Taken
import FeatureDoc.Proofs.Text.Lines

namespace FeatureDoc

/-- All steps of a feature: those of the background, then those of the scenarios. -/
def Feature.allSteps (f : Feature) : List Step :=
  f.backgroundSteps ++ f.scenarios.flatMap Scenario.steps

/-- The steps of a feature are those of its background and those of its scenarios. -/
theorem Feature.mem_allSteps {f : Feature} {s : Step} : s ∈ f.allSteps ↔
    (∃ b, f.background = some b ∧ s ∈ b.steps) ∨ ∃ sc ∈ f.scenarios, s ∈ sc.steps := by
  rw [allSteps, List.mem_append, List.mem_flatMap, backgroundSteps]
  cases f.background <;> simp

namespace Draft

/-! ## Operations that keep the steps -/

/-- A change of the open scenario that keeps its steps keeps all steps. -/
theorem allSteps_updateOpenScenario (d : Draft) (change : Scenario → Scenario)
    (h : ∀ sc, (change sc).steps = sc.steps) :
    (d.updateOpenScenario change).feature.allSteps = d.feature.allSteps := by
  rw [Feature.allSteps, flatMap_updateOpenScenario d h, Feature.backgroundSteps,
    background_updateOpenScenario]
  rfl

/-- Closing the blocks keeps all steps. -/
theorem allSteps_closeBlocks {d d' : Draft} (h : d.closeBlocks = .ok d') :
    d'.feature.allSteps = d.feature.allSteps := by
  obtain ⟨journal, rfl⟩ := closeBlocks_eq_ok h
  exact allSteps_updateOpenScenario d _ fun _ => rfl

/-- Opening a block keeps all steps. -/
theorem allSteps_declareExamples {d d' : Draft} {line : Nat} {orientation : Orientation}
    (h : d.declareExamples line orientation = .ok d') :
    d'.feature.allSteps = d.feature.allSteps := by
  obtain ⟨own, shared, _, _, journal, rfl⟩ := exists_of_declareExamples h
  exact allSteps_updateOpenScenario d _ fun _ => rfl

/-- Putting in a scenario without steps adds no step. -/
theorem flatMap_putScenario_sublist {sc : Scenario} (hnone : sc.steps = []) (ss : List Scenario) :
    ((Feature.putScenario sc ss).flatMap Scenario.steps).Sublist (ss.flatMap Scenario.steps) := by
  induction ss with
  | nil => simp [Feature.putScenario, hnone]
  | cons other rest ih =>
    rw [Feature.putScenario]
    split
    · rw [List.flatMap_cons, List.flatMap_cons, hnone, List.nil_append]
      exact List.sublist_append_right _ _
    · rw [List.flatMap_cons, List.flatMap_cons]
      exact ih.append_left _

/-- Opening a scenario that has no steps adds none. -/
theorem allSteps_openScenario_sublist (d : Draft) {sc : Scenario} (hnone : sc.steps = []) :
    (d.openScenario sc).feature.allSteps.Sublist d.feature.allSteps := by
  obtain ⟨journal, heq⟩ := openScenario_eq d sc
  rw [heq]
  exact (flatMap_putScenario_sublist hnone _).append_left _

/-- Declaring a background adds no step. -/
theorem allSteps_declareBackground_sublist (d : Draft) (line : Nat) :
    (d.declareBackground line).feature.allSteps.Sublist d.feature.allSteps := by
  obtain ⟨journal, heq⟩ := declareBackground_eq d line
  rw [heq]
  exact List.sublist_append_right _ _

/-- Describing the background keeps all steps. -/
theorem allSteps_describeBackground (d : Draft) (clean : Text) :
    (d.describeBackground clean).feature.allSteps = d.feature.allSteps := by
  have hsteps : (d.describeBackground clean).feature.backgroundSteps =
      d.feature.backgroundSteps := by
    unfold Feature.backgroundSteps describeBackground Feature.updateBackground
    cases d.feature.background <;> rfl
  rw [Feature.allSteps, hsteps]
  rfl

/-! ## Operations that change the steps of an owner -/

/-- After a change of the steps of an owner a step is one of before or one of the changed ones. -/
theorem mem_allSteps_of_updateSteps {d : Draft} {change : List Step → List Step} {owner : Owner}
    {s : Step} (h : s ∈ (d.updateSteps change owner).feature.allSteps) :
    s ∈ d.feature.allSteps ∨
      ∃ steps, (∀ t ∈ steps, t ∈ d.feature.allSteps) ∧ s ∈ change steps := by
  cases owner with
  | background =>
    rcases Feature.mem_allSteps.mp h with ⟨b', hb', hs⟩ | hscenario
    · obtain ⟨b, hb, rfl⟩ := Option.map_eq_some_iff.mp hb'
      refine Or.inr ⟨b.steps, fun t ht => ?_, hs⟩
      exact Feature.mem_allSteps.mpr (Or.inl ⟨b, hb, ht⟩)
    · exact Or.inl (Feature.mem_allSteps.mpr (Or.inr hscenario))
  | scenario =>
    have hopen : s ∈ (d.updateOpenScenario
        fun sc => { sc with steps := change sc.steps }).feature.allSteps := h
    rcases Feature.mem_allSteps.mp hopen with hbackground | ⟨sc', hsc', hs⟩
    · rw [background_updateOpenScenario] at hbackground
      exact Or.inl (Feature.mem_allSteps.mpr (Or.inl hbackground))
    · obtain ⟨sc, hsc, hchanged⟩ := mem_scenarios_updateOpenScenario hsc'
      have hbefore : ∀ t ∈ sc.steps, t ∈ d.feature.allSteps := fun t ht =>
        Feature.mem_allSteps.mpr (Or.inr ⟨sc, hsc, ht⟩)
      rcases hchanged with rfl | rfl
      · exact Or.inl (hbefore s hs)
      · exact Or.inr ⟨sc.steps, hbefore, hs⟩

/-- The steps of an owner stand in one place among all steps. -/
theorem exists_allSteps_updateSteps {d : Draft}
    (hdistinct : (d.feature.scenarios.map Scenario.name).Nodup) {owner : Owner}
    {steps : List Step} (h : d.steps? owner = some steps) : ∃ front back,
      d.feature.allSteps = front ++ steps ++ back ∧
      ∀ change, (d.updateSteps change owner).feature.allSteps = front ++ change steps ++ back := by
  suffices hplace : ∃ front back, ∀ change,
      (d.updateSteps change owner).feature.allSteps = front ++ change steps ++ back by
    obtain ⟨front, back, hchanged⟩ := hplace
    have hsame := hchanged id
    rw [updateSteps_id] at hsame
    exact ⟨front, back, hsame, hchanged⟩
  cases owner with
  | background =>
    obtain ⟨b, hb, rfl⟩ := Option.map_eq_some_iff.mp h
    refine ⟨[], d.feature.scenarios.flatMap Scenario.steps, fun change => ?_⟩
    simp [Feature.allSteps, Feature.backgroundSteps, updateSteps, Feature.updateBackground, hb]
  | scenario =>
    obtain ⟨sc, hsc, rfl⟩ := Option.map_eq_some_iff.mp h
    obtain ⟨name, hscenario, hfound⟩ := Option.bind_eq_some_iff.mp hsc
    obtain ⟨hname, before, after, hscenarios, -⟩ := List.find?_eq_some_iff_append.mp hfound
    obtain rfl : sc.name = name := of_decide_eq_true hname
    rw [hscenarios] at hdistinct
    -- the scenarios on either side of the open one have other names
    have hother : ∀ s ∈ before ++ after, s.name ≠ sc.name := by
      rw [List.map_append, List.map_cons, List.perm_middle.nodup_iff, List.nodup_cons,
        ← List.map_append] at hdistinct
      exact fun s hs heq => hdistinct.1 (heq ▸ List.mem_map_of_mem hs)
    have hkept : ∀ (change : Scenario → Scenario) (ss : List Scenario),
        (∀ s ∈ ss, s ∈ before ++ after) →
        ss.map (fun s => if s.name = sc.name then change s else s) = ss := by
      intro change ss hss
      refine (List.map_congr_left fun s hs => ?_).trans (List.map_id ss)
      exact if_neg (hother s (hss s hs))
    refine ⟨d.feature.backgroundSteps ++ before.flatMap Scenario.steps,
      after.flatMap Scenario.steps, fun change => ?_⟩
    have hbefore := hkept (fun s => { s with steps := change s.steps }) before
      fun s hs => List.mem_append_left _ hs
    have hafter := hkept (fun s => { s with steps := change s.steps }) after
      fun s hs => List.mem_append_right _ hs
    simp only [Feature.allSteps, Feature.backgroundSteps, updateSteps, updateOpenScenario,
      hscenario, Feature.updateScenario, hscenarios, List.map_append, List.map_cons, hbefore,
      hafter, if_true, List.flatMap_append, List.flatMap_cons, List.append_assoc]

/-- A list with its last member changed. -/
theorem changeLast_concat {α : Type} (change : α → α) (as : List α) (a : α) :
    changeLast change (as ++ [a]) = as ++ [change a] := by
  induction as with
  | nil => rfl
  | cons b rest ih =>
    obtain ⟨c, more, hmore⟩ := List.exists_cons_of_ne_nil (l := rest ++ [a]) (by simp)
    rw [List.cons_append, hmore, changeLast, ← hmore, ih, List.cons_append]
    simp

/-- The members of a list with its last one changed. -/
theorem mem_changeLast {α : Type} {change : α → α} {a : α} {as : List α}
    (h : a ∈ changeLast change as) : a ∈ as ∨ ∃ b ∈ as, a = change b := by
  induction as with
  | nil => exact Or.inl h
  | cons b rest ih =>
    cases rest with
    | nil => exact Or.inr ⟨b, List.mem_cons_self, List.mem_singleton.mp h⟩
    | cons b' rest =>
      rcases List.mem_cons.mp h with rfl | hrest
      · exact Or.inl List.mem_cons_self
      · rcases ih hrest with hmem | ⟨c, hc, rfl⟩
        · exact Or.inl (List.mem_cons_of_mem b hmem)
        · exact Or.inr ⟨c, List.mem_cons_of_mem b hc, rfl⟩

/-- After a line was captured a step is one of before, or one of before with this line. -/
theorem mem_allSteps_of_capture {d : Draft} {raw : Text} {s : Step}
    (h : s ∈ (d.capture raw).feature.allSteps) :
    s ∈ d.feature.allSteps ∨ ∃ t ∈ d.feature.allSteps, s = t.addLine raw := by
  unfold capture at h
  split at h
  · exact Or.inl h
  · rcases mem_allSteps_of_updateSteps h with hmem | ⟨steps, hsteps, hs⟩
    · exact Or.inl hmem
    · rcases mem_changeLast hs with hmem | ⟨t, ht, rfl⟩
      · exact Or.inl (hsteps s hmem)
      · exact Or.inr ⟨t, hsteps t ht, rfl⟩

/-! ## Every line -/

/-- A line that is taken up adds the step that it declares, or adds no step and opens none. -/
theorem Taken.adds_or_keeps {d d' : Draft} {line : Nat} {raw clean : Text} {c : Line.Classified}
    (h : Taken d line raw clean c d') :
    (∃ type step steps, Step.ofLine type c.keyword c.text (Text.indentWidth raw) line = .ok step ∧
      d.steps? d.stepOwner = some steps ∧
      d' = (d.enter (.step type)).appendStep d.stepOwner step) ∨
    (d'.openStep = d.openStep ∧ d'.feature.allSteps.Sublist d.feature.allSteps) := by
  have hopened : ∀ (mode : Mode) (orientation : Orientation),
      (d.enter mode).declareExamples line orientation = .ok d' →
      d'.openStep = d.openStep ∧ d'.feature.allSteps.Sublist d.feature.allSteps := by
    intro mode orientation hok
    have hkept := allSteps_declareExamples hok
    refine ⟨?_, hkept ▸ List.Sublist.refl _⟩
    obtain ⟨own, shared, _, _, journal, rfl⟩ := exists_of_declareExamples hok
    rfl
  have hfilled : ∀ (mode : Mode) (change : ExampleBlock → ExampleBlock),
      ((d.enter mode).updateBlock change).openStep = d.openStep ∧
        ((d.enter mode).updateBlock change).feature.allSteps.Sublist d.feature.allSteps := by
    intro mode change
    rw [updateBlock_openStep, updateBlock_feature]
    exact ⟨rfl, List.Sublist.refl _⟩
  cases h with
  | named => exact Or.inr ⟨rfl, List.Sublist.refl _⟩
  | prose => exact Or.inr ⟨rfl, List.Sublist.refl _⟩
  | scenario closed _ hclosed _ =>
    have hkept := allSteps_closeBlocks hclosed
    refine Or.inr ⟨?_, hkept ▸ allSteps_openScenario_sublist closed rfl⟩
    obtain ⟨journal, heq⟩ := openScenario_eq closed
      (.declared c.text c.keyword line closed.precedingTags)
    obtain ⟨journal', rfl⟩ := closeBlocks_eq_ok hclosed
    rw [heq]
    rfl
  | scenarioProse =>
    have hkept := allSteps_updateOpenScenario (d.enter .scenario)
      (fun sc => { sc with description := appendLine sc.description clean }) fun _ => rfl
    refine Or.inr ⟨rfl, ?_⟩
    rw [describeScenario, hkept]
    exact List.Sublist.refl _
  | background =>
    obtain ⟨journal, heq⟩ := declareBackground_eq (d.enter .background) line
    refine Or.inr ⟨by rw [heq]; rfl, ?_⟩
    exact allSteps_declareBackground_sublist (d.enter .background) line
  | backgroundProse =>
    refine Or.inr ⟨rfl, ?_⟩
    rw [allSteps_describeBackground]
    exact List.Sublist.refl _
  | examples _ _ hok => exact Or.inr (hopened _ _ hok)
  | verticalExamples _ _ hok => exact Or.inr (hopened _ _ hok)
  | header => exact Or.inr (hfilled _ _)
  | row _ _ _ hadded =>
    obtain ⟨-, rfl⟩ := addRow_eq_ok hadded
    exact Or.inr (hfilled _ _)
  | column _ _ _ hadded =>
    obtain ⟨name, cells, -, -, rfl⟩ := addColumn_eq_ok hadded
    exact Or.inr (hfilled _ _)
  | step type _ _ hadded =>
    obtain ⟨-, step, steps, hstep, hsteps, rfl⟩ := declareStep_eq_ok hadded
    exact Or.inl ⟨type, step, steps, hstep, hsteps, rfl⟩
  | tag => exact Or.inr ⟨rfl, List.Sublist.refl _⟩
  | nothing => exact Or.inr ⟨rfl, List.Sublist.refl _⟩

/-- After a line was taken up a step is one of before, or the one that the line declares. -/
theorem Taken.step_origin {d d' : Draft} {line : Nat} {raw clean : Text} {c : Line.Classified}
    (h : Taken d line raw clean c d') {s : Step} (hs : s ∈ d'.feature.allSteps) :
    s ∈ d.feature.allSteps ∨ ∃ type,
      Step.ofLine type c.keyword c.text (Text.indentWidth raw) line = .ok s := by
  rcases h.adds_or_keeps with ⟨type, step, _, hstep, -, rfl⟩ | ⟨-, hsub⟩
  · have hjoined : s ∈ ((d.enter (.step type)).updateSteps (· ++ [step])
        d.stepOwner).feature.allSteps := hs
    rcases mem_allSteps_of_updateSteps hjoined with hmem | ⟨steps, hsteps, hmem⟩
    · exact Or.inl hmem
    · rcases List.mem_append.mp hmem with hold | hnew
      · exact Or.inl (hsteps s hold)
      · obtain rfl := List.mem_singleton.mp hnew
        exact Or.inr ⟨type, hstep⟩
  · exact Or.inl (hsub.subset hs)

/-- After any line a step is one of before, one of before that captured the line, or the one that
the line declares. -/
theorem step_origin_of_feed {d d' : Draft} {line : Nat} {raw : Text}
    (h : d.feed line raw = .ok d') {s : Step} (hs : s ∈ d'.feature.allSteps) :
    s ∈ d.feature.allSteps ∨ (∃ t ∈ d.feature.allSteps, s = t.addLine raw) ∨
      ∃ type keyword text,
        Step.ofLine type keyword text (Text.indentWidth raw) line = .ok s := by
  rcases feed_cases h with ⟨-, rfl⟩ | ⟨-, -, -, rfl⟩ | ⟨-, e, rfl, htaken⟩
  · exact (mem_allSteps_of_capture hs).imp_right Or.inl
  · exact Or.inl hs
  · rcases htaken.step_origin hs with hmem | ⟨type, hstep⟩
    · exact Or.inl hmem
    · exact Or.inr (Or.inr ⟨type, _, _, hstep⟩)

/-! ## Whole documents -/

/-- The end of a document keeps all steps. -/
theorem allSteps_finish {d d' : Draft} (h : d.finish = .ok d') :
    d'.feature.allSteps = d.feature.allSteps := by
  obtain ⟨closed, hclosed, hend⟩ := exists_of_bind_eq_ok h
  have hsteps : closed.feature.allSteps = d.feature.allSteps :=
    allSteps_closeBlocks (d := { d with openStep := none }) hclosed
  obtain rfl := Except.ok.inj hend
  exact hsteps

variable {P : Step → Prop} {ls : List Text}
  (hdeclared : ∀ {type keyword text indent line s},
    Step.ofLine type keyword text indent line = .ok s → P s)
  (hcontinued : ∀ {s raw}, raw ∈ ls → P s → P (s.addLine raw))

include hdeclared hcontinued

/-- What holds of declared steps and is kept by captured lines is kept by all lines. -/
theorem forall_step_of_feedAll {line : Nat} {d d' : Draft} (hd : ∀ s ∈ d.feature.allSteps, P s)
    (h : d.feedAll line ls = .ok d') : ∀ s ∈ d'.feature.allSteps, P s := by
  induction ls generalizing line d with
  | nil =>
    obtain rfl := Except.ok.inj h
    exact hd
  | cons raw rest ih =>
    obtain ⟨e, hfirst, hrest⟩ := exists_of_bind_eq_ok h
    refine ih (fun hmem => hcontinued (List.mem_cons_of_mem raw hmem)) (fun s hs => ?_) hrest
    rcases step_origin_of_feed hfirst hs with hmem | ⟨t, ht, rfl⟩ | ⟨type, keyword, text, hstep⟩
    · exact hd s hmem
    · exact hcontinued List.mem_cons_self (hd t ht)
    · exact hdeclared hstep

end Draft

/-- What holds of declared steps and is kept by captured lines holds of all steps of a document
that is read. -/
theorem Feature.forall_step_of_parse {P : Step → Prop} {t : Text} {f : Feature}
    (hdeclared : ∀ {type keyword text indent line s},
      Step.ofLine type keyword text indent line = .ok s → P s)
    (hcontinued : ∀ {s raw}, raw ∈ Text.lines t → P s → P (s.addLine raw))
    (h : parse t = .ok f) : ∀ s ∈ f.allSteps, P s := by
  obtain ⟨d, e, hlines, hend, rfl⟩ := Draft.exists_of_parse_eq_ok h
  rw [Draft.allSteps_finish hend]
  exact Draft.forall_step_of_feedAll hdeclared hcontinued (fun s hs => absurd hs List.not_mem_nil)
    hlines

/-- No captured line holds a line feed. -/
theorem Feature.feed_notMem_of_mem_allSteps {t : Text} {f : Feature} (h : parse t = .ok f) :
    ∀ s ∈ f.allSteps, ∀ l ∈ s.lines, '\n' ∉ l := by
  refine forall_step_of_parse (P := fun s => ∀ l ∈ s.lines, '\n' ∉ l) ?_ ?_ h
  · intro type keyword text indent line s hs
    obtain ⟨scanned, -, hstep⟩ := exists_of_bind_eq_ok hs
    obtain rfl := Except.ok.inj hstep
    exact fun l hl => absurd hl List.not_mem_nil
  · intro s raw hraw hs l hl
    rcases List.mem_append.mp hl with hold | hnew
    · exact hs l hold
    · rw [List.mem_singleton.mp hnew]
      exact Text.feed_notMem_of_mem_lines hraw

end FeatureDoc
