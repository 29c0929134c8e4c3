/-
# Outlines are read as they were written

The items of an outline follow each other in groups: the heading, the steps of the background, and
every scenario with its tags and its steps. The feature of the outline is what they build up.

* `Draft.Stands.stepLines`, `Draft.Stands.scenariosLines` : lists of steps and of scenarios;
* `Draft.lines` : all lines of an outline;
* `Outline.parse_write` : the feature of an outline is read from the text of the outline.
-/
import FeatureDoc.Proofs.Outline.Items

namespace FeatureDoc

namespace Draft

variable {d : Draft} {f : Feature} {o : Option Text} {m : Option Mode} {ts : List Text}
  (line : Nat) {owner : Owner} {fill : List Step → Feature}

open Outline

/-! ## Groups of lines -/

/-- The lines of steps add them to the steps of the owner. -/
theorem Stands.stepLines (done : List Step) {before : Option StepType} {steps : List WrittenStep}
    (hfills : Fills owner o fill) (h : d.Stands (fill done) o m [])
    (hphrases : ∀ s ∈ steps, s.text.IsPhrase)
    (hscans : ∀ s ∈ steps, ∃ scanned, Param.scan s.text = .ok scanned)
    (hcontinued : Continued before steps) (hbefore : ∀ type ∈ before, m = some (.step type))
    (hguard : o = none → (steps ≠ [] → Mode.admits m) ∧
      ∀ s ∈ steps.dropLast, s.type ≠ .outcome) :
    ∃ d' m', d.feedAll line (steps.map WrittenStep.write) = .ok d' ∧
      d'.Stands (fill (done ++ readSteps line steps)) o m' [] := by
  -- the steps that have been read move from the list into `done`
  induction steps generalizing d line done m before with
  | nil =>
    rw [readSteps, List.append_nil]
    exact ⟨d, m, rfl, h⟩
  | cons s rest ih =>
    obtain ⟨hopening, hrest⟩ := hcontinued
    obtain ⟨e, hfeed, he⟩ := h.stepLine line hfills (hphrases s List.mem_cons_self)
      (hscans s List.mem_cons_self) (hopening.imp_right fun heq => hbefore s.type heq)
      (fun hnone => (hguard hnone).1 (List.cons_ne_nil _ _))
    obtain ⟨d', m', hfeeds, hd'⟩ := ih (line + 1) _ he
      (fun t ht => hphrases t (List.mem_cons_of_mem _ ht))
      (fun t ht => hscans t (List.mem_cons_of_mem _ ht)) hrest
      (by rintro type ⟨rfl⟩; rfl) (by
        intro hnone
        -- the step that has been read is no outcome unless it is the last one
        obtain ⟨-, houtcome⟩ := hguard hnone
        refine ⟨fun hne => Or.inr ⟨s.type, rfl, houtcome s ?_⟩, fun t ht => houtcome t ?_⟩
        · rw [List.dropLast_cons_of_ne_nil hne]
          exact List.mem_cons_self
        · have hne : rest ≠ [] := by
            rintro rfl
            cases ht
          rw [List.dropLast_cons_of_ne_nil hne]
          exact List.mem_cons_of_mem _ ht)
    refine ⟨d', m', ?_, ?_⟩
    · rw [List.map_cons, feedAll, hfeed]
      exact hfeeds
    · rw [readSteps]
      rwa [List.append_assoc, List.singleton_append] at hd'

/-- The lines of a scenario add it to the feature. -/
theorem Stands.scenarioLines (h : d.Stands f o m []) {s : WrittenScenario} (hs : s.WellFormed)
    (hsteps : ∀ t ∈ f.scenarios, t.steps ≠ []) (hnew : s.name ∉ f.scenarios.map Scenario.name) :
    ∃ d' m', d.feedAll line s.lines = .ok d' ∧
      d'.Stands { f with scenarios := f.scenarios ++ [s.read line] } (some s.name) m' [] := by
  obtain ⟨d₁, m₁, htags, h₁, -⟩ := h.tagLines line hs.tags
  obtain ⟨d₂, hname, h₂⟩ := h₁.scenarioLine (line + (Outline.tagLines s.tags).length)
    hs.name hsteps hnew
  have hfills := fills_scenario f (.declared s.name "Scenario:"
    (line + (Outline.tagLines s.tags).length) (Text.sortedSet s.tags)) hnew
  obtain ⟨d₃, m₃, hrest, h₃⟩ := Stands.stepLines
    (line + (Outline.tagLines s.tags).length + 1) [] hfills h₂ hs.steps.phrases
    hs.steps.scans hs.steps.continued (by rintro type ⟨⟩) (by rintro ⟨⟩)
  refine ⟨d₃, m₃, ?_, h₃⟩
  rw [WrittenScenario.lines, feedAll_append, htags]
  show d₁.feedAll _ (_ :: _) = _
  rw [feedAll, hname]
  exact hrest

/-- The lines of scenarios add them to the feature. -/
theorem Stands.scenariosLines (h : d.Stands f o m []) {ss : List WrittenScenario}
    (hss : ∀ s ∈ ss, s.WellFormed) (hsteps : ∀ t ∈ f.scenarios, t.steps ≠ [])
    (hdistinct : (f.scenarios.map Scenario.name ++ ss.map WrittenScenario.name).Nodup) :
    ∃ d' m' o', d.feedAll line (ss.flatMap WrittenScenario.lines) = .ok d' ∧
      d'.Stands { f with scenarios := f.scenarios ++ readScenarios line ss } o' m' [] ∧
      o' = (ss.getLast?.map WrittenScenario.name).or o := by
  induction ss generalizing d line f o m with
  | nil =>
    rw [readScenarios, List.append_nil]
    exact ⟨d, m, o, rfl, h, rfl⟩
  | cons s rest ih =>
    have hs := hss s List.mem_cons_self
    have hnew : s.name ∉ f.scenarios.map Scenario.name := fun hmem =>
      (List.nodup_append.mp hdistinct).2.2 s.name hmem s.name List.mem_cons_self rfl
    obtain ⟨e, m₁, hfeed, he⟩ := h.scenarioLines line hs hsteps hnew
    -- the next scenario may be opened, since this one has steps and another name
    have hsteps' : ∀ t ∈ f.scenarios ++ [s.read line], t.steps ≠ [] := by
      intro t ht
      rcases List.mem_append.mp ht with ht | ht
      · exact hsteps t ht
      · rw [List.mem_singleton.mp ht]
        exact readSteps_ne_nil hs.ne_nil
    have hdistinct' : ((f.scenarios ++ [s.read line]).map Scenario.name ++
        rest.map WrittenScenario.name).Nodup := by
      simpa [WrittenScenario.read] using hdistinct
    obtain ⟨d', m', o', hfeeds, hd', ho'⟩ := ih (line + s.lines.length) he
      (fun t ht => hss t (List.mem_cons_of_mem _ ht)) hsteps' hdistinct'
    refine ⟨d', m', o', ?_, ?_, ?_⟩
    · rw [List.flatMap_cons, feedAll_append, hfeed]
      exact hfeeds
    · rw [readScenarios]
      rwa [List.append_assoc, List.singleton_append] at hd'
    · rw [ho', List.getLast?_cons]
      cases rest.getLast? <;> rfl

/-- The lines of the heading name the feature. -/
theorem headingLines (o : Outline) (ho : o.WellFormed) : ∃ d m,
    (start [] []).feedAll 1 o.headingLines = .ok d ∧ d.Stands o.readHeading none m [] := by
  have hstart : (start [] []).Stands (.empty [] []) none none [] :=
    ⟨rfl, rfl, rfl, rfl, rfl, rfl, by rintro s ⟨⟩, rfl, rfl, rfl⟩
  unfold Outline.headingLines readHeading
  cases hheading : o.heading with
  | none => exact ⟨_, none, rfl, hstart⟩
  | some heading =>
    obtain ⟨d₁, m₁, htags, h₁, hmode⟩ := hstart.tagLines 1 (ho.tags heading hheading)
    obtain ⟨d₂, hname, h₂⟩ := h₁.featureLine (1 + (Outline.tagLines heading.tags).length)
      hmode rfl (ho.name heading hheading)
    refine ⟨d₂, _, ?_, h₂⟩
    simp only [feedAll_append, htags]
    show d₁.feedAll _ [_] = _
    rw [feedAll, hname]
    rfl

/-- The lines of the background declare it, with its steps. -/
theorem Stands.backgroundLines (h : d.Stands f none m []) (hnone : f.background = none)
    {o : Outline} (ho : o.WellFormed) : ∃ d' m',
    d.feedAll line o.backgroundLines = .ok d' ∧
      d'.Stands { f with background := o.background.map (readBackground line) } none m' [] := by
  unfold Outline.backgroundLines
  cases hbackground : o.background with
  | none =>
    refine ⟨d, m, rfl, ?_⟩
    rw [Option.map_none, ← hnone]
    exact h
  | some steps =>
    obtain ⟨d₁, hdeclared, h₁⟩ := h.backgroundLine line
    have hsteps := ho.background steps hbackground
    obtain ⟨d₂, m₂, hrest, h₂⟩ := Stands.stepLines (line + 1) []
      (fills_background f (.declared line)) h₁ hsteps.phrases hsteps.scans hsteps.continued
      (by rintro type ⟨⟩) fun _ => ⟨fun _ => Or.inl rfl, ho.outcome steps hbackground⟩
    refine ⟨d₂, m₂, ?_, h₂⟩
    show d.feedAll line (_ :: _) = _
    rw [feedAll, hdeclared]
    exact hrest

/-- The lines of an outline build its feature up. -/
theorem lines (o : Outline) (ho : o.WellFormed) : ∃ d m,
    (start [] []).feedAll 1 o.lines = .ok d ∧
      d.Stands o.feature (o.scenarios.getLast?.map WrittenScenario.name) m [] := by
  obtain ⟨d₁, m₁, hheading, h₁⟩ := headingLines o ho
  -- what the heading leaves behind is still without background and scenarios
  have hempty : o.readHeading.background = none ∧ o.readHeading.scenarios = [] := by
    unfold readHeading
    cases o.heading <;> exact ⟨rfl, rfl⟩
  obtain ⟨d₂, m₂, hbackground, h₂⟩ := h₁.backgroundLines (1 + o.headingLines.length)
    hempty.1 ho
  obtain ⟨d₃, m₃, o₃, hscenarios, h₃, ho₃⟩ := h₂.scenariosLines
    (1 + o.headingLines.length + o.backgroundLines.length) ho.scenarios
    (by rw [hempty.2]; exact fun t ht => absurd ht List.not_mem_nil)
    (by rw [hempty.2]; exact ho.distinct)
  refine ⟨d₃, m₃, ?_, ?_⟩
  · rw [Outline.lines, feedAll_append, feedAll_append, hheading]
    show (d₁.feedAll _ _ >>= _) = _
    rw [hbackground, List.length_append, ← Nat.add_assoc]
    exact hscenarios
  · rw [hempty.2, List.nil_append, ho₃, Option.or_none] at h₃
    exact h₃

/-- After the last line of a document without descriptions the feature stays as it is. -/
theorem Stands.finish (h : d.Stands f o m ts) (hdescription : f.description = []) :
    ∃ d', d.finish = .ok d' ∧ d'.feature = f := by
  have hclosed : ({ d with openStep := none } : Draft).closeBlocks =
      .ok { d with openStep := none } := closeBlocks_of_none h.scenarioBlock h.featureBlock
  rw [Draft.finish, hclosed]
  refine ⟨_, rfl, ?_⟩
  show { d.feature with description := Text.trim (Text.unlines d.prose) } = f
  rw [h.prose, h.feature, show Text.trim (Text.unlines []) = [] from rfl, ← hdescription]

end Draft

/-- A document is read by reading its lines and then its end. -/
theorem parse_eq_ok {t : Text} {d d' : Draft}
    (hlines : (Draft.start [] []).feedAll 1 (Text.lines t) = .ok d) (hend : d.finish = .ok d') :
    parse t = .ok d'.feature := by
  have hread : (Draft.start [] []).feedAll 1 (Text.lines t) >>= Draft.finish = .ok d' := by
    rw [hlines]
    exact hend
  rw [parse, readDocument, hread]

namespace Outline

/-! ## Whole documents -/

/-- A line above a declaration is read as it stands. -/
theorem isWhole_of_mem_tagLines {tags : List Text} (htags : ∀ tag ∈ tags, Line.IsTag tag)
    {l : Text} (h : l ∈ tagLines tags) : l.IsWhole := by
  unfold tagLines at h
  split at h
  · cases h
  · rename_i hne
    rw [List.mem_singleton.mp h]
    exact Line.isWhole_writeTags hne htags

/-- A line of a step is read as it stands. -/
theorem isWhole_of_mem_steps {steps : List WrittenStep} (hsteps : StepsWellFormed steps)
    {l : Text} (h : l ∈ steps.map WrittenStep.write) : l.IsWhole := by
  obtain ⟨s, hs, rfl⟩ := List.mem_map.mp h
  exact WrittenStep.isWhole_write (hsteps.phrases s hs)

/-- Every line of an outline is read as it stands. -/
theorem isWhole_of_mem_lines {o : Outline} (ho : o.WellFormed) {l : Text} (h : l ∈ o.lines) :
    l.IsWhole := by
  rcases List.mem_append.mp h with h | h
  · rcases List.mem_append.mp h with h | h
    · unfold headingLines at h
      cases hheading : o.heading with
      | none => simp [hheading] at h
      | some heading =>
        rw [hheading] at h
        rcases List.mem_append.mp h with h | h
        · exact isWhole_of_mem_tagLines (ho.tags heading hheading) h
        · rw [List.mem_singleton.mp h]
          have hlead : Text.OpensLine ("Feature: " : Text) := by decide
          exact (ho.name heading hheading).isWhole_append hlead
    · unfold backgroundLines at h
      cases hbackground : o.background with
      | none => simp [hbackground] at h
      | some steps =>
        rw [hbackground] at h
        rcases List.mem_cons.mp h with rfl | h
        · exact ⟨by decide, by decide, by decide, by decide⟩
        · exact isWhole_of_mem_steps (ho.background steps hbackground) h
  · obtain ⟨s, hs, h⟩ := List.mem_flatMap.mp h
    have hscenario := ho.scenarios s hs
    rcases List.mem_append.mp h with h | h
    · exact isWhole_of_mem_tagLines hscenario.tags h
    · rcases List.mem_cons.mp h with rfl | h
      · have hlead : Text.OpensLine ("Scenario: " : Text) := by decide
        exact hscenario.name.isWhole_append hlead
      · exact isWhole_of_mem_steps hscenario.steps h

/-- The feature of an outline is read from the text of the outline. -/
theorem parse_write (o : Outline) (ho : o.WellFormed) : parse o.write = .ok o.feature := by
  have hlines : Text.lines o.write = o.lines :=
    Text.lines_writeLines fun l hl => (isWhole_of_mem_lines ho hl).single
  obtain ⟨d, m, hfeed, hd⟩ := Draft.lines o ho
  have hdescription : o.feature.description = [] := by
    unfold feature readHeading
    cases o.heading <;> rfl
  obtain ⟨d', hfinish, hfeature⟩ := hd.finish hdescription
  rw [← hlines] at hfeed
  rw [parse_eq_ok hfeed hfinish, hfeature]

/-- A document with tags, a background, steps that go on with the type before, and steps that bind
names. -/
def checkout : Outline where
  heading := some { name := "Checkout", tags := ["shop", "slow"] }
  background := some [
    { type := .context, opening := .own, text := "a shop" },
    { type := .context, opening := .and, text := "<count.I:3> items" }]
  scenarios := [
    { name := "Paying", tags := ["smoke"], steps := [
      { type := .action, opening := .own, text := "the user pays <sum>" },
      { type := .outcome, opening := .own, text := "a bill is sent" },
      { type := .outcome, opening := .but, text := "no goods" }] },
    { name := "C# users", tags := [], steps := [
      { type := .outcome, opening := .own, text := "nothing" }] }]

/-- The document can be written. -/
theorem wellFormed_checkout : checkout.WellFormed where
  name := by rintro h ⟨rfl⟩; decide
  tags := by rintro h ⟨rfl⟩; decide
  background := by rintro steps ⟨rfl⟩; decide +kernel
  outcome := by rintro steps ⟨rfl⟩; decide
  scenarios := by decide +kernel
  distinct := by decide

/-- Writing the document and reading it. -/
theorem parse_write_checkout : checkout.WellFormed ∧ parse checkout.write = .ok checkout.feature :=
  ⟨wellFormed_checkout, parse_write checkout wellFormed_checkout⟩

end Outline

end FeatureDoc
