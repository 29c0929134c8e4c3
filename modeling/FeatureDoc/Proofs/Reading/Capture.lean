/-
# The lines that steps capture

A step captures the lines below its own as long as they are indented deeper, and blank lines after
the first of these. What it has in the end are just the lines of this run, and nothing else in the
feature comes from them.

* `Step.HasRun` : a step has the longest run of lines that continue it;
* `Draft.Tracks` : the invariant, and `Draft.tracks_of_feedAll` : all lines lead to it;
* `Draft.Beside` : a reading without the captured lines, beside the reading of all lines;
* `Feature.captured_of_parse` : documents that can be read.
-/
import FeatureDoc.Proofs.Reading.Attribution
import FeatureDoc.Proofs.Reading.Blocks
import FeatureDoc.Proofs.Reading.Steps
import FeatureDoc.Proofs.Reading.View

namespace FeatureDoc

/-! ## Runs of lines -/

namespace Step

/-- Lines that continue a step of the given indent: the first one is indented deeper, and every
later one is indented deeper or blank. -/
def Continued (indent : Nat) : List Text → Prop
  | [] => True
  | first :: rest => indent < Text.indentWidth first ∧
      ∀ raw ∈ rest, indent < Text.indentWidth raw ∨ Text.isBlankLine raw = true

/-- One more line continues a step if it is indented deeper, or blank after other lines. -/
theorem continued_concat {indent : Nat} {ls : List Text} {raw : Text} :
    Continued indent (ls ++ [raw]) ↔ Continued indent ls ∧
      (indent < Text.indentWidth raw ∨ (Text.isBlankLine raw = true ∧ ls ≠ [])) := by
  cases ls with
  | nil => simp [Continued]
  | cons first rest =>
    simp only [List.cons_append, Continued, List.forall_mem_append, List.forall_mem_singleton,
      ne_eq, List.cons_ne_nil, not_false_eq_true, and_true, and_assoc]

/-- The first ones of lines that continue a step continue it. -/
theorem Continued.of_append {indent : Nat} {ls more : List Text}
    (h : Continued indent (ls ++ more)) : Continued indent ls := by
  cases ls with
  | nil => trivial
  | cons first rest => exact ⟨h.1, fun raw hraw => h.2 raw (List.mem_append_left _ hraw)⟩

/-- The number of the last line of a step. -/
def lastLine (s : Step) : Nat := s.line + s.lines.length

/-- A step has its indent from a line, and its lines from below it, which continue it. -/
structure HasLines (ls : List Text) (s : Step) : Prop where
  declared : 0 < s.line ∧ ∃ raw, ls[s.line - 1]? = some raw ∧ s.indent = Text.indentWidth raw
  below : s.lines <+: ls.drop s.line
  continued : Continued s.indent s.lines

/-- A step has the longest run of lines below its own that continue it. -/
structure HasRun (ls : List Text) (s : Step) : Prop extends HasLines ls s where
  longest : ∀ run, run <+: ls.drop s.line → Continued s.indent run → run <+: s.lines

/-- A step has the lines below its own that continue it, up to the first one that does not. -/
structure Reads (ls : List Text) (s : Step) : Prop extends HasLines ls s where
  ended : ∀ next, ls[s.lastLine]? = some next → ¬Continued s.indent (s.lines ++ [next])

namespace Reads

variable {ls : List Text} {s : Step} {raw : Text}

/-- The line of a step is one of the lines. -/
theorem line_le (h : s.Reads ls) : s.line ≤ ls.length := by
  obtain ⟨hpos, raw, hraw, -⟩ := h.declared
  have hlt := (List.getElem?_eq_some_iff.mp hraw).1
  omega

/-- The lines that a step has are some of the lines. -/
theorem lastLine_le (h : s.Reads ls) : s.lastLine ≤ ls.length := by
  have hlength := h.below.length_le
  rw [List.length_drop] at hlength
  have hline := h.line_le
  rw [lastLine]
  omega

/-- No longer run of lines continues a step. -/
theorem hasRun (h : s.Reads ls) : s.HasRun ls := by
  refine { h with longest := fun run hrun hcontinued => ?_ }
  rcases List.prefix_or_prefix_of_prefix hrun h.below with hshort | ⟨more, rfl⟩
  · exact hshort
  · cases more with
    | nil => exact ⟨[], by simp⟩
    | cons next rest =>
      -- the line behind those of the step would continue it as well
      obtain ⟨after, hafter⟩ := hrun
      have hnext : ls[s.lastLine]? = some next := by
        rw [lastLine, ← List.getElem?_drop, ← hafter]
        simp
      rw [List.append_cons] at hcontinued
      exact absurd hcontinued.of_append (h.ended next hnext)

/-- The line of a step stays where it is. -/
theorem declared_append (h : s.Reads ls) (more : List Text) :
    0 < s.line ∧ ∃ raw, (ls ++ more)[s.line - 1]? = some raw ∧ s.indent = Text.indentWidth raw := by
  obtain ⟨hpos, own, hown, hindent⟩ := h.declared
  refine ⟨hpos, own, ?_, hindent⟩
  rw [List.getElem?_append_left (List.getElem?_eq_some_iff.mp hown).1, hown]

/-- A line that does not continue a step leaves it as it is. -/
theorem concat (h : s.Reads ls)
    (hraw : s.lastLine = ls.length → ¬Continued s.indent (s.lines ++ [raw])) :
    s.Reads (ls ++ [raw]) where
  declared := h.declared_append [raw]
  below := by
    rw [List.drop_append_of_le_length h.line_le]
    exact h.below.trans (List.prefix_append _ _)
  continued := h.continued
  ended := by
    intro next hnext
    rcases Nat.lt_or_eq_of_le h.lastLine_le with hlt | heq
    · rw [List.getElem?_append_left hlt] at hnext
      exact h.ended next hnext
    · rw [heq, List.getElem?_concat_length] at hnext
      rw [← Option.some.inj hnext]
      exact hraw heq

/-- A line that continues a step joins its lines. -/
theorem addLine (h : s.Reads ls) (hlast : s.lastLine = ls.length)
    (hraw : Continued s.indent (s.lines ++ [raw])) : (s.addLine raw).Reads (ls ++ [raw]) where
  declared := h.declared_append [raw]
  below := by
    have hall : s.lines = ls.drop s.line := by
      refine h.below.eq_of_length ?_
      rw [List.length_drop, ← hlast, lastLine]
      omega
    have hdrop : (ls ++ [raw]).drop s.line = s.lines ++ [raw] := by
      rw [List.drop_append_of_le_length h.line_le, ← hall]
    exact ⟨[], (List.append_nil _).trans hdrop.symm⟩
  continued := hraw
  ended := by
    intro next hnext
    have hlength : (s.addLine raw).lastLine = (ls ++ [raw]).length := by
      rw [List.length_append, List.length_singleton, ← hlast]
      simp [lastLine, Step.addLine, Nat.add_assoc]
    rw [hlength, List.getElem?_length] at hnext
    cases hnext

/-- A step that has just been declared has no lines yet. -/
theorem ofLine {type : StepType} {keyword text : Text}
    (h : Step.ofLine type keyword text (Text.indentWidth raw) (ls.length + 1) = .ok s) :
    s.Reads (ls ++ [raw]) ∧ s.lastLine = ls.length + 1 ∧ s.lines = [] := by
  obtain ⟨scanned, -, hok⟩ := exists_of_bind_eq_ok h
  obtain rfl := Except.ok.inj hok
  refine ⟨{ declared := ⟨Nat.succ_pos _, raw, ?_, rfl⟩
            below := List.nil_prefix
            continued := trivial
            ended := ?_ }, rfl, rfl⟩
  · simp
  · intro next hnext
    have hlength : (ls ++ [raw])[ls.length + 1]? = none := by simp
    cases hlength.symm.trans hnext

end Reads

/-- Two steps have no line in common. -/
def Apart (s s' : Step) : Prop := s.lastLine < s'.line ∨ s'.lastLine < s.line

/-- Steps are apart if one of them is apart from the others, and these from each other. -/
theorem pairwise_apart_middle {front back : List Step} {s : Step} :
    (front ++ s :: back).Pairwise Apart ↔
      (∀ s' ∈ front ++ back, s.Apart s') ∧ (front ++ back).Pairwise Apart := by
  have hsymm : ∀ {s s' : Step}, s.Apart s' → s'.Apart s := fun h => h.symm
  rw [List.pairwise_middle hsymm, List.pairwise_cons]

/-- What holds of one of the steps and of the others holds of all. -/
theorem forall_mem_middle {P : Step → Prop} {front back : List Step} {s : Step} :
    (∀ s' ∈ front ++ s :: back, P s') ↔ P s ∧ ∀ s' ∈ front ++ back, P s' := by
  simp only [List.perm_middle.mem_iff, List.forall_mem_cons]

end Step

namespace Draft

/-! ## The steps of a draft -/

/-- What is known of the steps after some lines: each has the run of lines that continue it, no two
have a line in common, and a step that more lines may continue is the last one of its owner and
goes down to the last line. -/
structure Tracks (done : List Text) (d : Draft) : Prop where
  reads : ∀ s ∈ d.feature.allSteps, s.Reads done
  apart : d.feature.allSteps.Pairwise Step.Apart
  idle : d.openStep = none → ∀ s ∈ d.feature.allSteps, s.lastLine < done.length
  going : ∀ o, d.openStep = some o → ∃ before last, d.steps? o.owner = some (before ++ [last]) ∧
    last.lastLine = done.length ∧ o.indent = last.indent ∧ d.capturing = !last.lines.isEmpty

/-- Before the first line there is no step. -/
theorem tracks_start (path relativePath : Path) : Tracks [] (start path relativePath) where
  reads := fun _ hs => absurd hs List.not_mem_nil
  apart := List.Pairwise.nil
  idle := fun _ _ hs => absurd hs List.not_mem_nil
  going := nofun

namespace Tracks

variable {done : List Text} {d d' : Draft} {raw : Text}

/-- The open step among all steps: the others end above it, and a line that is captured joins just
this one. -/
theorem exists_last (h : Tracks done d)
    (hdistinct : (d.feature.scenarios.map Scenario.name).Nodup) {o : OpenStep}
    (hopen : d.openStep = some o) : ∃ front last back,
      d.feature.allSteps = front ++ last :: back ∧
      (∀ raw, (d.capture raw).feature.allSteps = front ++ last.addLine raw :: back) ∧
      (∀ s ∈ front ++ back, s.lastLine < last.line) ∧ last.lastLine = done.length ∧
      o.indent = last.indent ∧ d.capturing = !last.lines.isEmpty ∧
      ∃ before, d.steps? o.owner = some (before ++ [last]) := by
  obtain ⟨before, last, hsteps, hlast, hindent, hcapturing⟩ := h.going o hopen
  obtain ⟨front, back, hall, hchanged⟩ := exists_allSteps_updateSteps hdistinct hsteps
  have hplace : d.feature.allSteps = front ++ before ++ last :: back := by
    rw [hall]
    simp
  refine ⟨front ++ before, last, back, hplace, fun raw => ?_, fun s hs => ?_, hlast, hindent,
    hcapturing, before, hsteps⟩
  · have hcapture := hchanged (changeLast (Step.addLine · raw))
    rw [changeLast_concat] at hcapture
    rw [Draft.capture, hopen]
    refine hcapture.trans ?_
    simp
  · have hreads := h.reads
    have hapart := h.apart
    rw [hplace, Step.forall_mem_middle] at hreads
    rw [hplace, Step.pairwise_apart_middle] at hapart
    -- no step ends below the last line, so that this one ends above the open one
    refine (hapart.1 s hs).resolve_left fun hbelow => ?_
    have hle := (hreads.2 s hs).lastLine_le
    have hline : s.line ≤ s.lastLine := Nat.le_add_right _ _
    omega

/-- A line that is captured joins the open step. -/
theorem capture (h : Tracks done d) (hdistinct : (d.feature.scenarios.map Scenario.name).Nodup)
    (hcaptured : d.captures raw = true) : Tracks (done ++ [raw]) (d.capture raw) := by
  cases hopen : d.openStep with
  | none => simp [captures, hopen] at hcaptured
  | some o =>
    obtain ⟨front, last, back, hall, hall', hothers, hlast, hindent, hcapturing, before,
      hsteps⟩ := h.exists_last hdistinct hopen
    have hcapture : d.capture raw =
        { d.updateSteps (changeLast (Step.addLine · raw)) o.owner with capturing := true } := by
      rw [Draft.capture, hopen]
    have hreads := h.reads
    have hapart := h.apart
    rw [hall, Step.forall_mem_middle] at hreads
    rw [hall, Step.pairwise_apart_middle] at hapart
    have hcontinued : Step.Continued last.indent (last.lines ++ [raw]) := by
      rw [Step.continued_concat]
      refine ⟨hreads.1.continued, ?_⟩
      simpa [captures, hopen, hindent, hcapturing] using hcaptured
    have hother : ∀ s ∈ front ++ back, s.Reads (done ++ [raw]) := by
      intro s hs
      refine (hreads.2 s hs).concat fun hend => ?_
      have habove := hothers s hs
      have hle : last.line ≤ last.lastLine := Nat.le_add_right _ _
      omega
    constructor
    · rw [hall', Step.forall_mem_middle]
      exact ⟨hreads.1.addLine hlast hcontinued, hother⟩
    · rw [hall', Step.pairwise_apart_middle]
      exact ⟨fun s hs => Or.inr (hothers s hs), hapart.2⟩
    · intro hnone
      rw [hcapture] at hnone
      cases hopen.symm.trans hnone
    · intro o' ho'
      rw [hcapture] at ho'
      obtain rfl : o = o' := Option.some.inj (hopen.symm.trans ho')
      refine ⟨before, last.addLine raw, ?_, ?_, hindent, ?_⟩
      · rw [hcapture]
        show (d.updateSteps (changeLast (Step.addLine · raw)) o.owner).steps? o.owner = _
        rw [steps?_updateSteps, hsteps, Option.map_some, changeLast_concat]
      · rw [List.length_append, List.length_singleton, ← hlast]
        simp [Step.lastLine, Step.addLine, Nat.add_assoc]
      · rw [hcapture]
        simp [Step.addLine]

/-- A line that is not captured continues no step. -/
theorem reads_of_free (h : Tracks done d)
    (hdistinct : (d.feature.scenarios.map Scenario.name).Nodup) (hfree : d.captures raw = false) :
    ∀ s ∈ d.feature.allSteps, s.Reads (done ++ [raw]) := by
  cases hopen : d.openStep with
  | none =>
    exact fun s hs => (h.reads s hs).concat fun hend =>
      absurd hend (Nat.ne_of_lt (h.idle hopen s hs))
  | some o =>
    obtain ⟨front, last, back, hall, -, hothers, hlast, hindent, hcapturing, -⟩ :=
      h.exists_last hdistinct hopen
    have hreads := h.reads
    rw [hall, Step.forall_mem_middle] at hreads ⊢
    constructor
    · refine hreads.1.concat fun _ => ?_
      rw [Step.continued_concat]
      rintro ⟨-, hraw⟩
      have hcaptured : d.captures raw = true := by
        simpa [captures, hopen, hindent, hcapturing] using hraw
      exact Bool.noConfusion (hfree.symm.trans hcaptured)
    · -- only the open step goes down to the last line
      intro s hs
      refine (hreads.2 s hs).concat fun hend => ?_
      have habove := hothers s hs
      have hle : last.line ≤ last.lastLine := Nat.le_add_right _ _
      omega

/-- Steps without an open one among them, which have one more line. -/
theorem of_sublist (hreads : ∀ s ∈ d.feature.allSteps, s.Reads (done ++ [raw]))
    (hapart : d.feature.allSteps.Pairwise Step.Apart)
    (hlast : ∀ s ∈ d.feature.allSteps, s.lastLine ≤ done.length)
    (hsub : d'.feature.allSteps.Sublist d.feature.allSteps) (hopen : d'.openStep = none) :
    Tracks (done ++ [raw]) d' where
  reads := fun s hs => hreads s (hsub.subset hs)
  apart := hapart.sublist hsub
  idle := by
    intro _ s hs
    have hle := hlast s (hsub.subset hs)
    rw [List.length_append, List.length_singleton]
    omega
  going := fun o ho => nomatch hopen.symm.trans ho

/-- A step that has been declared is the open one. -/
theorem appendStep {type : StepType} {keyword text : Text} {owner : Owner} {step : Step}
    {steps : List Step} (hdistinct : (d.feature.scenarios.map Scenario.name).Nodup)
    (hreads : ∀ s ∈ d.feature.allSteps, s.Reads (done ++ [raw]))
    (hapart : d.feature.allSteps.Pairwise Step.Apart)
    (hlast : ∀ s ∈ d.feature.allSteps, s.lastLine ≤ done.length)
    (hstep : Step.ofLine type keyword text (Text.indentWidth raw) (done.length + 1) = .ok step)
    (hsteps : d.steps? owner = some steps) :
    Tracks (done ++ [raw]) (d.appendStep owner step) := by
  obtain ⟨hnew, hline, hnone⟩ := Step.Reads.ofLine hstep
  obtain ⟨front, back, hall, hchanged⟩ := exists_allSteps_updateSteps hdistinct hsteps
  have hall' : (d.appendStep owner step).feature.allSteps =
      (front ++ steps) ++ step :: back := by
    refine (hchanged (· ++ [step])).trans ?_
    simp
  rw [hall] at hreads hapart hlast
  constructor
  · rw [hall', Step.forall_mem_middle]
    exact ⟨hnew, hreads⟩
  · rw [hall', Step.pairwise_apart_middle]
    refine ⟨fun s hs => Or.inr ?_, hapart⟩
    have hle := hlast s hs
    rw [Step.lastLine, hnone, List.length_nil] at hline
    omega
  · rintro ⟨⟩
  · rintro _ ⟨⟩
    refine ⟨steps, step, ?_, ?_, rfl, ?_⟩
    · rw [steps?_appendStep, hsteps]
      rfl
    · rw [hline, List.length_append, List.length_singleton]
    · simp [Draft.appendStep, hnone]

/-- Every line leaves steps with the lines that continue them. -/
theorem feed (h : Tracks done d) (hdistinct : (d.feature.scenarios.map Scenario.name).Nodup)
    (hfeed : d.feed (done.length + 1) raw = .ok d') : Tracks (done ++ [raw]) d' := by
  have hlast : ∀ s ∈ d.feature.allSteps, s.lastLine ≤ done.length := fun s hs =>
    (h.reads s hs).lastLine_le
  rcases feed_cases hfeed with ⟨hcaptured, rfl⟩ | ⟨hfree, -, -, rfl⟩ | ⟨hfree, e, rfl, htaken⟩
  · exact h.capture hdistinct hcaptured
  · exact of_sublist (h.reads_of_free hdistinct hfree) h.apart hlast (List.Sublist.refl _) rfl
  · have hreads := h.reads_of_free hdistinct hfree
    rcases htaken.adds_or_keeps with ⟨type, step, steps, hstep, hsteps, rfl⟩ | ⟨hopen, hsub⟩
    · have happended : Tracks (done ++ [raw])
          (((d.beforeTaking (done.length + 1) raw).enter (.step type)).appendStep
            (d.beforeTaking (done.length + 1) raw).stepOwner step) :=
        appendStep hdistinct hreads h.apart hlast hstep hsteps
      exact { happended with }
    · exact of_sublist hreads h.apart hlast hsub hopen

end Tracks

/-- The scenarios of a draft have different names. -/
theorem distinct_of_feedAll {path relativePath : Path} {ls : List Text} {d : Draft}
    (h : (start path relativePath).feedAll 1 ls = .ok d) :
    (d.feature.scenarios.map Scenario.name).Nodup := by
  have hattributed := attributed_of_feedAll (attributed_start path relativePath) h
  exact map_name_layout d ▸ hattributed.nodup

/-- Any lines that cause no fault lead to steps with the lines that continue them. -/
theorem tracks_of_feedAll {path relativePath : Path} {ls : List Text} {d : Draft}
    (h : (start path relativePath).feedAll 1 ls = .ok d) : Tracks ls d :=
  (feedAll_induction_lines
    (P := fun done d => (start path relativePath).feedAll 1 done = .ok d ∧ Tracks done d)
    (fun ⟨hdone, htracks⟩ hfeed =>
      ⟨feedAll_concat hdone hfeed, htracks.feed (distinct_of_feedAll hdone) hfeed⟩)
    ⟨rfl, tracks_start path relativePath⟩ h).2

end Draft

/-! ## A reading without the captured lines -/

/-- The step without the lines that it has captured. -/
def Step.bare (s : Step) : Step := { s with lines := [] }

/-- The feature with all its steps without the lines that they have captured. -/
def Feature.bare (f : Feature) : Feature :=
  { f with background := f.background.map fun b => { b with steps := b.steps.map Step.bare }
           scenarios := f.scenarios.map fun s => { s with steps := s.steps.map Step.bare } }

/-- A reading that has not the captured lines. -/
def View.bare : View :=
  { step := Step.bare, indent := id, keepsLines := false, path := id, relativePath := id,
    indent_step := fun _ => rfl }

/-- A line that is not captured means the same. -/
theorem View.lines_bare (raw : Text) : View.bare.Lines raw raw where
  trim := rfl
  clean := rfl
  blank := rfl
  deeper := fun _ => Iff.rfl
  declared := by
    intro type keyword text line
    unfold Step.ofLine
    cases Param.scan text <;> rfl

namespace Draft

/-- A reading without the captured lines is beside one with them: it has the same, but no captured
line. Once there was one, the step that has captured it is not open any more. -/
inductive Beside (d e : Draft) : Prop where
  | level (h : View.bare.Shows d e)
  | behind (h : View.bare.Shows { d with openStep := none } e)

/-- A line that is not captured is read as if no step were open. -/
theorem feed_release {d : Draft} {raw : Text} (hfree : d.captures raw = false) (line : Nat) :
    d.release.feed line raw = d.feed line raw := by
  have hfirst : ¬d.release.captures raw = true := by simp [release, captures]
  have hsecond : ¬d.captures raw = true := by simp [hfree]
  have hrelease : d.release.release = d.release := by simp [release]
  rw [feed, feed, if_neg hfirst, if_neg hsecond, hrelease]

/-- A captured line is seen in no bare step. -/
theorem changeLast_addLine_bare (raw : Text) (steps : List Step) :
    (changeLast (Step.addLine · raw) steps).map Step.bare = steps.map Step.bare := by
  rcases List.eq_nil_or_concat steps with rfl | ⟨front, last, rfl⟩
  · rfl
  · rw [List.concat_eq_append, changeLast_concat, List.map_append, List.map_append]
    rfl

namespace Beside

variable {d e : Draft} {raw : Text}

/-- A line that is not captured is read by both. -/
theorem feed_of_free (h : Beside d e) (hfree : d.captures raw = false) (line : Nat) :
    View.bare.InStep (d.feed line raw) (e.feed line raw) := by
  cases h with
  | level h => exact h.feed_of_free (View.lines_bare raw) hfree
  | behind h =>
    have hrelease : View.bare.Shows d.release e := { h with }
    rw [← feed_release hfree]
    exact hrelease.feed_of_free (View.lines_bare raw) (by simp [release, captures])

/-- An empty line takes the place of a captured one. -/
theorem feed_of_captured (h : Beside d e) (hcaptured : d.captures raw = true)
    (hlast : d.lastMode ≠ some .feature) (line : Nat) :
    ∃ e', e.feed line [] = .ok e' ∧ Beside (d.capture raw) e' := by
  cases hopen : d.openStep with
  | none => simp [captures, hopen] at hcaptured
  | some o =>
    have hclosed : View.bare.Shows { d with openStep := none } e.release := by
      cases h with
      | level h => exact { h.release with }
      | behind h => exact { h.release with }
    have hcapturing : e.capturing = false := by
      cases h with
      | level h => exact h.capturing
      | behind h => exact h.capturing
    have hfree : e.captures [] = false := by
      unfold captures
      cases e.openStep with
      | none => rfl
      | some s => simp [Text.indentWidth, Text.leadingBlanks, hcapturing]
    have hlast' : e.lastMode ≠ some .feature := hclosed.lastMode.trans_ne hlast
    refine ⟨e.release, feed_of_blank hfree rfl hlast' line, .behind ?_⟩
    have hbare : ∀ steps : List Step, id (steps.map Step.bare) =
        (changeLast (Step.addLine · raw) steps).map Step.bare := fun steps =>
      (changeLast_addLine_bare raw steps).symm
    have hsame := hclosed.updateSteps o.owner hbare
    rw [updateSteps_id] at hsame
    rw [capture, hopen]
    exact { hsame with }

/-- The document ends for both. -/
theorem finish (h : Beside d e) : View.bare.InStep d.finish e.finish := by
  cases h with
  | level h => exact h.finish
  | behind h => exact h.finish

end Beside

/-- Lines beside others: some are empty instead, and among these are all that the steps of a draft
have captured. -/
structure Emptied (d : Draft) (ls ls' : List Text) : Prop where
  lines : List.Forall₂ (fun raw raw' => raw' = raw ∨ raw' = []) ls ls'
  captured : ∀ s ∈ d.feature.allSteps, ∀ n, s.line ≤ n → n < s.lastLine → ls'[n]? = some []

namespace Emptied

variable {d d' : Draft} {ls ls' : List Text} {raw raw' : Text}

/-- A line that is captured is empty beside. -/
theorem capture (h : Emptied d ls ls') (htracks : Tracks ls d)
    (hdistinct : (d.feature.scenarios.map Scenario.name).Nodup)
    (hcaptured : d.captures raw = true) :
    Emptied (d.capture raw) (ls ++ [raw]) (ls' ++ [[]]) where
  lines := List.rel_append h.lines (List.forall₂_cons.mpr ⟨Or.inr rfl, .nil⟩)
  captured := by
    have hlength := h.lines.length_eq
    have hkept : ∀ {n}, n < ls.length → ls'[n]? = some [] → (ls' ++ [[]])[n]? = some [] := by
      intro n hn hempty
      rw [List.getElem?_append_left (hlength ▸ hn), hempty]
    cases hopen : d.openStep with
    | none => simp [captures, hopen] at hcaptured
    | some o =>
      obtain ⟨front, last, back, hall, hall', -, hlast, -⟩ := htracks.exists_last hdistinct hopen
      have hbefore := h.captured
      have hreads := htracks.reads
      rw [hall, Step.forall_mem_middle] at hbefore hreads
      rw [hall', Step.forall_mem_middle]
      constructor
      · intro n hline hn
        have hstop : (last.addLine raw).lastLine = ls.length + 1 := by
          rw [← hlast]
          simp [Step.lastLine, Step.addLine, Nat.add_assoc]
        rcases Nat.lt_or_ge n ls.length with hlt | hge
        · exact hkept hlt (hbefore.1 n hline (hlast ▸ hlt))
        · obtain rfl : n = ls'.length := by omega
          exact List.getElem?_concat_length ..
      · intro s hs n hline hn
        have hle := (hreads.2 s hs).lastLine_le
        exact hkept (by omega) (hbefore.2 s hs n hline hn)

/-- A line that is not captured stands in both. -/
theorem concat (h : Emptied d ls ls') (htracks : Tracks ls d)
    (hsteps : ∀ s ∈ d'.feature.allSteps, s ∈ d.feature.allSteps ∨ s.lines = []) (raw : Text) :
    Emptied d' (ls ++ [raw]) (ls' ++ [raw]) where
  lines := List.rel_append h.lines (List.forall₂_cons.mpr ⟨Or.inl rfl, .nil⟩)
  captured := by
    intro s hs n hline hn
    rcases hsteps s hs with hold | hnone
    · have hle := (htracks.reads s hold).lastLine_le
      have hlength := h.lines.length_eq
      rw [List.getElem?_append_left (by omega)]
      exact h.captured s hold n hline hn
    · rw [Step.lastLine, hnone, List.length_nil] at hn
      omega

end Emptied

/-- A step that is not one of before has captured nothing, after a line that is not captured. -/
theorem lines_of_feed {d d' : Draft} {line : Nat} {raw : Text} (hfree : d.captures raw = false)
    (h : d.feed line raw = .ok d') :
    ∀ s ∈ d'.feature.allSteps, s ∈ d.feature.allSteps ∨ s.lines = [] := by
  intro s hs
  rcases feed_cases h with ⟨hcaptured, -⟩ | ⟨-, -, -, rfl⟩ | ⟨-, e, rfl, htaken⟩
  · exact Bool.noConfusion (hfree.symm.trans hcaptured)
  · exact Or.inl hs
  · refine (htaken.step_origin hs).imp_right ?_
    rintro ⟨type, hstep⟩
    obtain ⟨scanned, -, hok⟩ := exists_of_bind_eq_ok hstep
    obtain rfl := Except.ok.inj hok
    rfl

/-- Any lines that cause no fault have lines beside them without the captured ones. -/
theorem exists_beside_of_feedAll {ls : List Text} {d : Draft}
    (h : (start [] []).feedAll 1 ls = .ok d) : ∃ ls' e, (start [] []).feedAll 1 ls' = .ok e ∧
      Beside d e ∧ Emptied d ls ls' := by
  refine (feedAll_induction_lines (P := fun done d => (start [] []).feedAll 1 done = .ok d ∧
    ∃ done' e, (start [] []).feedAll 1 done' = .ok e ∧ Beside d e ∧ Emptied d done done')
    ?_ ?_ h).2
  · rintro done d raw d' ⟨hdone, done', e, hdone', hbeside, hemptied⟩ hfeed
    have htracks := tracks_of_feedAll hdone
    have hlength := hemptied.lines.length_eq
    refine ⟨feedAll_concat hdone hfeed, ?_⟩
    cases hcaptured : d.captures raw with
    | true =>
      have hcapture : d' = d.capture raw := by
        rw [feed, if_pos hcaptured] at hfeed
        exact (Except.ok.inj hfeed).symm
      have hlast : d.lastMode ≠ some .feature := by
        have hopen : d.openStep ≠ none := fun hnone => by simp [captures, hnone] at hcaptured
        obtain ⟨type, -, hlast⟩ := (spelled_of_feedAll hdone).openStep hopen
        simp [hlast]
      obtain ⟨e', hempty, hbeside'⟩ := hbeside.feed_of_captured hcaptured hlast (done'.length + 1)
      rw [hcapture]
      exact ⟨done' ++ [[]], e', feedAll_concat hdone' hempty, hbeside',
        hemptied.capture htracks (distinct_of_feedAll hdone) hcaptured⟩
    | false =>
      have hstep := hbeside.feed_of_free hcaptured (done.length + 1)
      rw [hfeed] at hstep
      generalize hread : e.feed (done.length + 1) raw = read at hstep
      cases hstep with
      | @ok _ e' hshows =>
        rw [hlength] at hread
        exact ⟨done' ++ [raw], e', feedAll_concat hdone' hread, .level hshows,
          hemptied.concat htracks (lines_of_feed hcaptured hfeed) raw⟩
  · exact ⟨rfl, [], start [] [], rfl, .level (by constructor <;> rfl),
      { lines := .nil, captured := fun s hs => absurd hs List.not_mem_nil }⟩

end Draft

/-! ## Whole documents -/

/-- The steps of a document that can be read have captured just the lines that continue them. No
line is captured by two steps, and nothing else in the feature comes from a captured line: with
empty lines in their place, the document describes the same feature but for what the steps have
captured. -/
theorem Feature.captured_of_parse {t : Text} {f : Feature} (h : parse t = .ok f) :
    (∀ s ∈ f.allSteps, s.HasRun (Text.lines t)) ∧ f.allSteps.Pairwise Step.Apart ∧
    ∃ ls', List.Forall₂ (fun raw raw' => raw' = raw ∨ raw' = []) (Text.lines t) ls' ∧
      (∀ s ∈ f.allSteps, ∀ n, s.line ≤ n → n < s.lastLine → ls'[n]? = some []) ∧
      ∃ e, ((Draft.start [] []).feedAll 1 ls' >>= Draft.finish) = .ok e ∧ e.feature = f.bare := by
  obtain ⟨d, closed, hlines, hend, rfl⟩ := Draft.exists_of_parse_eq_ok h
  rw [Draft.allSteps_finish hend]
  have htracks := Draft.tracks_of_feedAll hlines
  obtain ⟨ls', e, hlines', hbeside, hemptied⟩ := Draft.exists_beside_of_feedAll hlines
  refine ⟨fun s hs => ?_, htracks.apart, ls', hemptied.lines, hemptied.captured, ?_⟩
  · exact (htracks.reads s hs).hasRun
  · have hfinish := hbeside.finish
    rw [hend] at hfinish
    rw [hlines']
    generalize hread : e.finish = read at hfinish
    cases hfinish with
    | ok hshows => exact ⟨_, hread, hshows.feature⟩

/-- A step captures a line like a tag, a blank one, and one like a step, and then the next step
follows. -/
theorem Feature.captured_of_parse_of_lookalikes :
    let t : Text := "Scenario: S\n  Given x\n    @a\n\n    When y\n  Then z\n"
    ∃ f, parse t = .ok f ∧ f.allSteps.map Step.line = [2, 6] ∧
      f.allSteps.map Step.lines = ([["    @a", [], "    When y"], []] : List (List Text)) ∧
      (∀ s ∈ f.allSteps, s.HasRun (Text.lines t)) ∧ f.allSteps.Pairwise Step.Apart := by
  intro t
  have hread : parse t = .ok _ := rfl
  have h := captured_of_parse hread
  exact ⟨_, hread, rfl, rfl, h.1, h.2.1⟩

end FeatureDoc
