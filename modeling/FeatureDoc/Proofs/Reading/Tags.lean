/-
# The tags of a document

A tag line belongs to the declaration that follows it, and to nothing else: blank lines, comments
and captured lines may stand between, but no other line. While lines are read the last line that
was taken up is remembered; this module shows that it tells the tags of the nearest line above
from which something is left.

* `Text.saidAbove?` : what is left of the nearest line above;
* `Draft.Recalls` : the tags that a declaration would get, and `Draft.Recalls.feed` : every line
  keeps them;
* `Draft.Tagged` : the tags of what was declared;
* `Feature.tagged_of_parse` : documents that can be read.
-/
import FeatureDoc.Proofs.Reading.Attribution
import FeatureDoc.Proofs.Reading.Commented

namespace FeatureDoc

/-! ## The nearest line above -/

namespace Line

/-- What is left of a line without its comment, if the line is not captured and something is. -/
def said? (raw : Text) (captured : Bool) : Option Text :=
  if captured = true ∨ stripComment raw = [] then none else some (stripComment raw)

/-- What is left of the last one of some lines of which something is, given which of them are
captured. -/
def lastSaid? (ls : List Text) (captured : List Bool) : Option Text :=
  (ls.zip captured).reverse.findSome? fun line => said? line.1 line.2

/-- The tags of what is declared below a line: those of the line, if it holds tags. -/
def tagsBelow : Option Text → List Text
  | some clean => if clean.head? = some '@' then parseTags clean else []
  | none => []

/-- One more line is the last one, if something is left of it. -/
theorem lastSaid?_concat {ls : List Text} {captured : List Bool}
    (hlength : ls.length = captured.length) (raw : Text) (b : Bool) :
    lastSaid? (ls ++ [raw]) (captured ++ [b]) = (said? raw b).or (lastSaid? ls captured) := by
  rw [lastSaid?, List.zip_append hlength, List.reverse_append, List.findSome?_append]
  cases hsaid : said? raw b <;> simp [hsaid, lastSaid?]

/-- Which lines below are captured does not matter. -/
theorem lastSaid?_append {ls : List Text} {captured : List Bool}
    (hlength : ls.length ≤ captured.length) (more : List Bool) :
    lastSaid? ls (captured ++ more) = lastSaid? ls captured := by
  have hzip : ls.zip (captured ++ more) = ls.zip captured := by
    induction ls generalizing captured with
    | nil => rfl
    | cons raw rest ih =>
      cases captured with
      | nil => cases hlength
      | cons b captured =>
        exact congrArg ((raw, b) :: ·) (ih (Nat.le_of_succ_le_succ hlength))
  rw [lastSaid?, hzip, lastSaid?]

/-- A line that begins like a tag holds tags. -/
theorem kind_of_head?_eq_at {clean : Text} (h : clean.head? = some '@') :
    (classify clean).kind = some .tag := by
  obtain ⟨rest, rfl⟩ := List.head?_eq_some_iff.mp h
  rfl

end Line

/-- What is left of the nearest line above a line of the document that is not captured by a step,
and of which something is left without its comment. -/
def Text.saidAbove? (t : Text) (line : Nat) : Option Text :=
  Line.lastSaid? ((Text.lines t).take (line - 1)) (Text.captured t)

namespace Draft

/-! ## Which lines are captured -/

/-- As many lines are told to be captured or not as are read. -/
theorem length_captured {d d' : Draft} {line : Nat} {ls : List Text}
    (h : d.feedAll line ls = .ok d') : (d.captured line ls).length = ls.length := by
  induction ls generalizing d line with
  | nil => rfl
  | cons raw rest ih =>
    obtain ⟨e, hfirst, hrest⟩ := exists_of_bind_eq_ok h
    rw [captured, hfirst, List.length_cons, List.length_cons, ih hrest]

/-- Lines are captured or not as they are below the lines before them. -/
theorem captured_append {d d' : Draft} {line : Nat} {ls : List Text}
    (h : d.feedAll line ls = .ok d') (more : List Text) :
    d.captured line (ls ++ more) =
      d.captured line ls ++ d'.captured (line + ls.length) more := by
  induction ls generalizing d line with
  | nil =>
    obtain rfl := Except.ok.inj h
    rfl
  | cons raw rest ih =>
    obtain ⟨e, hfirst, hrest⟩ := exists_of_bind_eq_ok h
    rw [List.cons_append, captured, captured, hfirst, List.cons_append, add_length_cons]
    exact congrArg _ (ih hrest)

/-- One more line is captured or not as it is below the lines before it. -/
theorem captured_concat {d d' : Draft} {line : Nat} {ls : List Text}
    (h : d.feedAll line ls = .ok d') (raw : Text) :
    d.captured line (ls ++ [raw]) = d.captured line ls ++ [d'.captures raw] := by
  rw [captured_append h, captured]
  split <;> rfl

/-! ## The line that is remembered -/

/-- The tags that a declaration would get are those of the nearest line above. -/
structure Recalls (done : List Text) (captured : List Bool) (d : Draft) : Prop where
  tags : d.precedingTags = Line.tagsBelow (Line.lastSaid? done captured)
  /-- A line that describes the feature holds no tags. -/
  describing : d.lastMode = some .feature → d.precedingTags = []

/-- The tags of a declaration are those of the line that is remembered. -/
theorem precedingTags_eq (d : Draft) : d.precedingTags = Line.tagsBelow d.lastLine := by
  unfold precedingTags
  cases d.lastLine <;> rfl

/-- A line after which the feature may be described declares the feature or nothing. -/
theorem Taken.kind_of_feature {d d' : Draft} {line : Nat} {raw clean : Text} {c : Line.Classified}
    (h : Taken d line raw clean c d') (hlast : d'.lastMode = some .feature) :
    c.kind = some .feature ∨ c.kind = none := by
  have hopened : ∀ (mode : Mode) {orientation : Orientation}, mode ≠ .feature →
      (d.enter mode).declareExamples line orientation ≠ .ok d' := by
    intro mode orientation hmode hok
    refine hmode (Option.some.inj (Eq.trans ?_ hlast))
    obtain ⟨own, shared, _, _, journal, rfl⟩ := exists_of_declareExamples hok
    rfl
  cases h with
  | named _ _ hkind => exact hkind.imp_right And.left
  | prose _ hkind => exact hkind.imp_right And.left
  | scenario closed _ hclosed _ =>
    obtain ⟨journal, rfl⟩ := closeBlocks_eq_ok hclosed
    obtain ⟨journal', heq⟩ := openScenario_eq _ _
    rw [heq] at hlast
    cases hlast
  | background =>
    obtain ⟨journal, heq⟩ := declareBackground_eq (d.enter .background) line
    rw [heq] at hlast
    cases hlast
  | examples _ _ hok => exact absurd hok (hopened .examples (by decide))
  | verticalExamples _ _ hok => exact absurd hok (hopened .verticalExamples (by decide))
  | scenarioProse hkind => exact Or.inr hkind
  | backgroundProse hkind => exact Or.inr hkind
  | header hkind => exact Or.inr hkind
  | row _ hkind => exact Or.inr hkind
  | column _ hkind => exact Or.inr hkind
  | step type _ _ hadded =>
    obtain ⟨-, step, steps, -, -, rfl⟩ := declareStep_eq_ok hadded
    cases hlast
  | tag => cases hlast
  | nothing hkind => exact Or.inr hkind

/-- Before the first line there is none to be remembered. -/
theorem recalls_start (path relativePath : Path) : Recalls [] [] (start path relativePath) where
  tags := rfl
  describing := nofun

namespace Recalls

variable {done : List Text} {captured : List Bool} {d d' : Draft} {raw : Text}

/-- A line of which nothing is left, or that is captured, is not remembered. -/
theorem skip (h : Recalls done captured d) (hlength : done.length = captured.length) {b : Bool}
    (hsaid : Line.said? raw b = none) (htags : d'.precedingTags = d.precedingTags)
    (hlast : d'.lastMode = d.lastMode) : Recalls (done ++ [raw]) (captured ++ [b]) d' where
  tags := by rw [htags, h.tags, Line.lastSaid?_concat hlength, hsaid, Option.none_or]
  describing := fun hmode => htags.trans (h.describing (hlast.symm.trans hmode))

/-- Every line keeps the tags of the nearest line above. -/
theorem feed (h : Recalls done captured d) (hlength : done.length = captured.length)
    (hfeed : d.feed (done.length + 1) raw = .ok d') :
    Recalls (done ++ [raw]) (captured ++ [d.captures raw]) d' := by
  cases hcaptured : d.captures raw with
  | true =>
    rw [eq_capture_of_feed hcaptured hfeed]
    refine h.skip hlength (if_pos (Or.inl rfl)) ?_ ?_ <;>
    · unfold Draft.capture
      split <;> rfl
  | false =>
    rcases feed_cases_of_free hcaptured hfeed with ⟨hblank, -, rfl⟩ | ⟨hlast, e, rfl, htaken⟩
    · exact h.skip hlength (if_pos (Or.inr hblank)) rfl rfl
    · have htags : Draft.precedingTags { e with lastLine := some (Line.stripComment raw) } =
          Line.tagsBelow (some (Line.stripComment raw)) := precedingTags_eq _
      constructor
      · rw [htags, Line.lastSaid?_concat hlength]
        by_cases hblank : Line.stripComment raw = []
        · -- a blank line that describes the feature stands below a line without tags
          rw [Line.said?, if_pos (Or.inr hblank), Option.none_or, ← h.tags,
            h.describing (hlast hblank), hblank]
          rfl
        · rw [Line.said?, if_neg (by simp [hblank])]
          rfl
      · intro hmode
        rw [htags]
        refine if_neg fun hat => ?_
        have htag := Line.kind_of_head?_eq_at hat
        rcases htaken.kind_of_feature hmode with hkind | hkind <;> cases htag.symm.trans hkind

end Recalls

/-- After any lines that cause no fault the tags of the nearest line are those that a declaration
would get. -/
theorem recalls_of_feedAll {path relativePath : Path} {ls : List Text} {d : Draft}
    (h : (start path relativePath).feedAll 1 ls = .ok d) :
    Recalls ls ((start path relativePath).captured 1 ls) d := by
  refine (feedAll_induction_lines
    (P := fun done d => (start path relativePath).feedAll 1 done = .ok d ∧
      Recalls done ((start path relativePath).captured 1 done) d) ?_
    ⟨rfl, recalls_start path relativePath⟩ h).2
  rintro done d raw d' ⟨hdone, hrecalls⟩ hfeed
  refine ⟨feedAll_concat hdone hfeed, ?_⟩
  rw [captured_concat hdone]
  exact hrecalls.feed (length_captured hdone).symm hfeed

end Draft

/-! ## What is declared -/

/-- What a scenario has from the line that declares it, but for its name. -/
def Scenario.heading (sc : Scenario) : Nat × List Text := (sc.line, sc.tags)

/-- What a feature has from the line that names it. -/
def Feature.heading (f : Feature) : Option Text × Nat × List Text := (f.name, f.line, f.tags)

/-- One feature has the headings of another one. -/
structure Feature.SameHeadings (f g : Feature) : Prop where
  feature : g.heading = f.heading
  scenarios : g.scenarios.map Scenario.heading = f.scenarios.map Scenario.heading

namespace Draft

/-- A change of the open scenario that keeps its heading keeps all headings. -/
theorem sameHeadings_updateOpenScenario (d : Draft) (change : Scenario → Scenario)
    (h : ∀ sc, (change sc).heading = sc.heading) :
    d.feature.SameHeadings (d.updateOpenScenario change).feature where
  feature := by
    unfold updateOpenScenario
    split <;> rfl
  scenarios := map_updateOpenScenario d h

/-- A change of steps keeps all headings. -/
theorem sameHeadings_updateSteps (d : Draft) (change : List Step → List Step) (owner : Owner) :
    d.feature.SameHeadings (d.updateSteps change owner).feature := by
  cases owner with
  | background => exact ⟨rfl, rfl⟩
  | scenario => exact sameHeadings_updateOpenScenario d _ fun _ => rfl

/-- Closing both blocks keeps all headings. -/
theorem sameHeadings_closeBlocks {d d' : Draft} (h : d.closeBlocks = .ok d') :
    d.feature.SameHeadings d'.feature := by
  obtain ⟨journal, rfl⟩ := closeBlocks_eq_ok h
  have hscenario := sameHeadings_updateOpenScenario d (withExamples (remaining d.scenarioBlock))
    fun _ => rfl
  exact ⟨hscenario.feature, hscenario.scenarios⟩

/-- Opening a block keeps all headings. -/
theorem sameHeadings_declareExamples {d d' : Draft} {line : Nat} {orientation : Orientation}
    (h : d.declareExamples line orientation = .ok d') : d.feature.SameHeadings d'.feature := by
  obtain ⟨own, shared, _, _, journal, rfl⟩ := exists_of_declareExamples h
  have hscenario := sameHeadings_updateOpenScenario d (withExamples own) fun _ => rfl
  exact ⟨hscenario.feature, hscenario.scenarios⟩

/-- A line that is taken up keeps all headings, or names the feature, or declares a scenario; what
it names or declares has the tags of the line before it. -/
theorem Taken.heading_cases {d d' : Draft} {line : Nat} {raw clean : Text} {c : Line.Classified}
    (h : Taken d line raw clean c d') : d.feature.SameHeadings d'.feature ∨
    (d.feature.name = none ∧ d'.feature.heading = (some c.text, line, d.precedingTags) ∧
      d'.feature.scenarios = d.feature.scenarios) ∨
    (d'.feature.heading = d.feature.heading ∧ ∀ sc ∈ d'.feature.scenarios,
      sc.heading = (line, d.precedingTags) ∨
        sc.heading ∈ d.feature.scenarios.map Scenario.heading) := by
  have hfilled : ∀ (mode : Mode) (change : ExampleBlock → ExampleBlock),
      d.feature.SameHeadings ((d.enter mode).updateBlock change).feature := by
    intro mode change
    rw [updateBlock_feature]
    exact ⟨rfl, rfl⟩
  cases h with
  | named _ hname => exact Or.inr (Or.inl ⟨hname, rfl, rfl⟩)
  | scenario closed _ hclosed _ =>
    have hsame : d.feature.SameHeadings closed.feature :=
      sameHeadings_closeBlocks (d := d.enter .scenario) hclosed
    have htags : closed.precedingTags = d.precedingTags := by
      obtain ⟨journal, rfl⟩ := closeBlocks_eq_ok hclosed
      rfl
    obtain ⟨journal, heq⟩ := openScenario_eq closed
      (.declared c.text c.keyword line closed.precedingTags)
    rw [heq]
    refine Or.inr (Or.inr ⟨hsame.feature, fun sc hsc => ?_⟩)
    rcases Feature.eq_or_mem_of_mem_putScenario hsc with rfl | hmem
    · left
      rw [← htags]
      rfl
    · right
      rw [← hsame.scenarios]
      exact List.mem_map_of_mem hmem
  | scenarioProse =>
    exact Or.inl (sameHeadings_updateOpenScenario (d.enter .scenario) _ fun _ => rfl)
  | background =>
    obtain ⟨journal, heq⟩ := declareBackground_eq (d.enter .background) line
    rw [heq]
    exact Or.inl ⟨rfl, rfl⟩
  | examples _ _ hok =>
    exact Or.inl (sameHeadings_declareExamples (d := d.enter .examples) hok)
  | verticalExamples _ _ hok =>
    exact Or.inl (sameHeadings_declareExamples (d := d.enter .verticalExamples) hok)
  | header => exact Or.inl (hfilled _ _)
  | row _ _ _ hadded =>
    obtain ⟨-, rfl⟩ := addRow_eq_ok hadded
    exact Or.inl (hfilled _ _)
  | column _ _ _ hadded =>
    obtain ⟨name, cells, -, -, rfl⟩ := addColumn_eq_ok hadded
    exact Or.inl (hfilled _ _)
  | step type _ _ hadded =>
    obtain ⟨-, step, steps, -, -, rfl⟩ := declareStep_eq_ok hadded
    exact Or.inl (sameHeadings_updateSteps (d.enter (.step type)) (· ++ [step]) d.stepOwner)
  | prose | backgroundProse | tag | nothing => exact Or.inl ⟨rfl, rfl⟩

/-- The line of a number sets the name of the feature: before it there is none. -/
def Names (ls : List Text) (line : Nat) (name : Text) : Prop :=
  ∃ above raw below d d', ls = above ++ raw :: below ∧ line = above.length + 1 ∧
    (start [] []).feedAll 1 above = .ok d ∧ d.feed line raw = .ok d' ∧
    d.feature.name = none ∧ d'.feature.name = some name

/-- A line that sets the name of the feature does so whatever follows. -/
theorem Names.append {ls : List Text} {line : Nat} {name : Text} (h : Names ls line name)
    (more : List Text) : Names (ls ++ more) line name := by
  obtain ⟨above, raw, below, d, d', rfl, hnames⟩ := h
  exact ⟨above, raw, below ++ more, d, d', by simp, hnames⟩

/-- The tags that an item gets on the line of a number. -/
def tagsAt (ls : List Text) (line : Nat) : List Text :=
  Line.tagsBelow (Line.lastSaid? (ls.take (line - 1)) ((start [] []).captured 1 ls))

/-- What is declared has the tags of the nearest line above. -/
structure Tagged (ls : List Text) (d : Draft) : Prop where
  feature : ∀ name, d.feature.name = some name →
    Names ls d.feature.line name ∧ d.feature.tags = tagsAt ls d.feature.line
  scenarios : ∀ sc ∈ d.feature.scenarios, sc.line ≤ ls.length ∧ sc.tags = tagsAt ls sc.line

/-- Nothing is declared before the first line. -/
theorem tagged_start : Tagged [] (start [] []) where
  feature := nofun
  scenarios := fun _ hsc => absurd hsc List.not_mem_nil

/-- What is declared below some lines gets the tags of the nearest of them. -/
theorem tagsAt_concat {ls : List Text} {d : Draft} (h : (start [] []).feedAll 1 ls = .ok d)
    (raw : Text) : tagsAt (ls ++ [raw]) (ls.length + 1) = d.precedingTags := by
  rw [tagsAt, captured_concat h, Nat.add_sub_cancel, List.take_left,
    Line.lastSaid?_append (Nat.le_of_eq (length_captured h).symm), (recalls_of_feedAll h).tags]

/-- The tags of what is declared on one of some lines do not depend on the lines below. -/
theorem tagsAt_append {ls : List Text} {d : Draft} (h : (start [] []).feedAll 1 ls = .ok d)
    {line : Nat} (hline : line ≤ ls.length) (more : List Text) :
    tagsAt (ls ++ more) line = tagsAt ls line := by
  have hle : line - 1 ≤ ls.length := Nat.le_trans (Nat.sub_le line 1) hline
  have hlength : (ls.take (line - 1)).length ≤ ((start [] []).captured 1 ls).length := by
    rw [length_captured h]
    exact List.length_take_le' _ _
  rw [tagsAt, captured_append h, List.take_append_of_le_length hle, Line.lastSaid?_append hlength,
    tagsAt]

namespace Tagged

variable {ls : List Text} {d d' : Draft} {raw : Text}

/-- A scenario with the heading of one of before has its tags. -/
theorem of_heading (h : Tagged ls d) (hread : (start [] []).feedAll 1 ls = .ok d) {sc : Scenario}
    (hsc : sc.heading ∈ d.feature.scenarios.map Scenario.heading) :
    sc.line ≤ (ls ++ [raw]).length ∧ sc.tags = tagsAt (ls ++ [raw]) sc.line := by
  obtain ⟨sc', hsc', heq⟩ := List.mem_map.mp hsc
  obtain ⟨hline, htags⟩ := Prod.mk.inj heq
  obtain ⟨hle, htagged⟩ := h.scenarios sc' hsc'
  rw [← hline, ← htags, tagsAt_append hread hle]
  exact ⟨hle.trans (by simp), htagged⟩

/-- A feature with the heading of before has its tags. -/
theorem of_feature (h : Tagged ls d) (hread : (start [] []).feedAll 1 ls = .ok d) {f : Feature}
    (hf : f.heading = d.feature.heading) {name : Text} (hname : f.name = some name) :
    Names (ls ++ [raw]) f.line name ∧ f.tags = tagsAt (ls ++ [raw]) f.line := by
  obtain ⟨hsame, hplace⟩ := Prod.mk.inj hf
  obtain ⟨hline, htags⟩ := Prod.mk.inj hplace
  obtain ⟨hnames, htagged⟩ := h.feature name (hsame ▸ hname)
  have hle : d.feature.line ≤ ls.length := by
    obtain ⟨above, own, below, e, e', hls, hat, -⟩ := hnames
    rw [hat, hls, List.length_append, List.length_cons]
    omega
  rw [hline, htags, tagsAt_append hread hle]
  exact ⟨hnames.append [raw], htagged⟩

/-- Nothing changes with the headings. -/
theorem same (h : Tagged ls d) (hread : (start [] []).feedAll 1 ls = .ok d)
    (hsame : d.feature.SameHeadings d'.feature) : Tagged (ls ++ [raw]) d' where
  feature := fun _ hname => h.of_feature hread hsame.feature hname
  scenarios := fun _ hsc => h.of_heading hread (hsame.scenarios ▸ List.mem_map_of_mem hsc)

/-- Every line gives what it declares the tags of the nearest line above. -/
theorem feed (h : Tagged ls d) (hread : (start [] []).feedAll 1 ls = .ok d)
    (hfeed : d.feed (ls.length + 1) raw = .ok d') : Tagged (ls ++ [raw]) d' := by
  rcases feed_cases hfeed with ⟨-, rfl⟩ | ⟨-, -, -, rfl⟩ | ⟨-, e, rfl, htaken⟩
  · refine h.same hread ?_
    unfold Draft.capture
    split
    · exact ⟨rfl, rfl⟩
    · exact sameHeadings_updateSteps d _ _
  · exact h.same hread ⟨rfl, rfl⟩
  · rcases htaken.heading_cases with hsame | ⟨hnone, hnamed, hscenarios⟩ | ⟨hfeature, hscenarios⟩
    · exact h.same hread ⟨hsame.feature, hsame.scenarios⟩
    · obtain ⟨hname, hplace⟩ := Prod.mk.inj hnamed
      obtain ⟨hline, htags⟩ := Prod.mk.inj hplace
      constructor
      · intro name hname'
        refine ⟨⟨ls, raw, [], d, _, rfl, hline, hread, hline ▸ hfeed, hnone, hname'⟩, ?_⟩
        rw [hline, tagsAt_concat hread]
        exact htags
      · intro sc hsc
        exact h.of_heading hread (List.mem_map_of_mem (hscenarios ▸ hsc))
    · constructor
      · exact fun _ hname => h.of_feature hread hfeature hname
      · intro sc hsc
        rcases hscenarios sc hsc with hnew | hold
        · obtain ⟨hline, htags⟩ := Prod.mk.inj hnew
          rw [hline, tagsAt_concat hread]
          exact ⟨by simp, htags⟩
        · exact h.of_heading hread hold

end Tagged

/-- After any lines that cause no fault, what is declared has the tags of the nearest line above. -/
theorem tagged_of_feedAll {ls : List Text} {d : Draft}
    (h : (start [] []).feedAll 1 ls = .ok d) : Tagged ls d :=
  (feedAll_induction_lines
    (P := fun done d => (start [] []).feedAll 1 done = .ok d ∧ Tagged done d)
    (fun ⟨hdone, htagged⟩ hfeed => ⟨feedAll_concat hdone hfeed, htagged.feed hdone hfeed⟩)
    ⟨rfl, tagged_start⟩ h).2

/-- At the end of a document all headings are kept. -/
theorem sameHeadings_finish {d d' : Draft} (h : d.finish = .ok d') :
    d.feature.SameHeadings d'.feature := by
  obtain ⟨closed, hclosed, hfinished⟩ := exists_of_bind_eq_ok h
  obtain rfl := Except.ok.inj hfinished
  have hsame := sameHeadings_closeBlocks (d := { d with openStep := none }) hclosed
  exact ⟨hsame.feature, hsame.scenarios⟩

end Draft

/-! ## Whole documents -/

/-- A scenario is on the line of the last declaration of its name. -/
theorem Feature.exists_lastDeclaration {t : Text} {f : Feature} (h : parse t = .ok f)
    {sc : Scenario} (hsc : sc ∈ f.scenarios) :
    ∃ before after, declarations t = before ++ ⟨sc.line, sc.name⟩ :: after ∧
      sc.name ∉ after.map Declaration.name := by
  obtain ⟨d, e, hlines, hend, rfl⟩ := Draft.exists_of_parse_eq_ok h
  have hattributed := Draft.attributed_of_feedAll (Draft.attributed_start [] []) hlines
  obtain ⟨hlayout, -, -⟩ := Draft.attributed_of_finish hattributed hend
  obtain ⟨before, after, hdeclared, hlast, -⟩ :=
    hlayout.parts (e.partOf sc) (List.mem_map_of_mem hsc)
  exact ⟨before, after, hdeclared, hlast⟩

/-- In a document that can be read, tags belong to the declaration right below them. The feature
and every scenario have the tags of the nearest line above the one that names the feature, or that
declares the scenario last; and a scenario has these tags and those of the feature. -/
theorem Feature.tagged_of_parse {t : Text} {f : Feature} (h : parse t = .ok f) :
    (∀ name, f.name = some name → Draft.Names (Text.lines t) f.line name ∧
      f.tags = Line.tagsBelow (t.saidAbove? f.line)) ∧
    ∀ sc ∈ f.scenarios,
      (∃ before after, declarations t = before ++ ⟨sc.line, sc.name⟩ :: after ∧
        sc.name ∉ after.map Declaration.name) ∧
      sc.tags = Line.tagsBelow (t.saidAbove? sc.line) ∧
      ∀ tag, tag ∈ f.tagsOf sc ↔ tag ∈ sc.tags ∨ tag ∈ f.tags := by
  obtain ⟨d, e, hlines, hend, heq⟩ := Draft.exists_of_parse_eq_ok h
  have htagged := Draft.tagged_of_feedAll hlines
  have hsame := heq ▸ Draft.sameHeadings_finish hend
  constructor
  · intro name hname
    obtain ⟨hname', hplace⟩ := Prod.mk.inj hsame.feature
    obtain ⟨hline, htags⟩ := Prod.mk.inj hplace
    rw [hline, htags]
    exact htagged.feature name (hname' ▸ hname)
  · intro sc hsc
    refine ⟨exists_lastDeclaration h hsc, ?_, fun tag => ?_⟩
    · have hheading : sc.heading ∈ d.feature.scenarios.map Scenario.heading :=
        hsame.scenarios ▸ List.mem_map_of_mem hsc
      obtain ⟨sc', hsc', hsc''⟩ := List.mem_map.mp hheading
      obtain ⟨hline, htags⟩ := Prod.mk.inj hsc''
      rw [← hline, ← htags]
      exact (htagged.scenarios sc' hsc').2
    · rw [tagsOf, Text.mem_sortedSet, List.mem_append]

/-- Tags with a comment between them and the feature, with a description between them and a
scenario, with a captured line between them and a scenario that is declared twice. -/
theorem Feature.tagged_of_parse_of_lines :
    let t := Text.unlines ["@f @e", "# c", [], "Feature: F", "@lost", "about", "Scenario: S",
      "@lost", "Given x", "  @lost", "@s", [], "Scenario: S", "Given y"]
    ∃ f sc, parse t = .ok f ∧ f.scenarios = [sc] ∧ f.tags = ["e".toList, "f".toList] ∧
      sc.line = 13 ∧ sc.tags = ["s".toList] ∧ "e".toList ∈ f.tagsOf sc := by
  intro t
  have hread : parse t = .ok _ := rfl
  obtain ⟨hfeature, hscenarios⟩ := tagged_of_parse hread
  obtain ⟨-, htags⟩ := hfeature _ rfl
  obtain ⟨-, hown, hall⟩ := hscenarios _ List.mem_cons_self
  exact ⟨_, _, hread, rfl, htags, rfl, hown, (hall _).mpr (Or.inr List.mem_cons_self)⟩

end FeatureDoc
