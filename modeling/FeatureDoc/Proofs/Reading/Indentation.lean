/-
# Documents that are indented as a whole

The same blanks in front of every line of a document make no difference to what it describes: the
indents of its steps grow by these blanks, and the lines that steps capture have them in front.

* `View.lines_indentation` : a line with blanks in front of it is read like the line itself;
* `parse_indentLines` : whole documents;
* `indentLines_keeps_meaning` : names and contents of the steps.
-/
import FeatureDoc.Proofs.Reading.View
import FeatureDoc.Proofs.Reading.Steps
import FeatureDoc.Proofs.Line.Comment
import FeatureDoc.Proofs.Feature.Content

namespace FeatureDoc

/-! ## Indented features -/

/-- The scenario as it stands in a document with more blanks in front of every line. -/
def Scenario.indented (w : Text) (s : Scenario) : Scenario :=
  { s with steps := s.steps.map (Step.indented w) }

/-- The background as it stands in a document with more blanks in front of every line. -/
def Background.indented (w : Text) (b : Background) : Background :=
  { b with steps := b.steps.map (Step.indented w) }

/-- The feature of a document with more blanks in front of every line. -/
def Feature.indented (w : Text) (f : Feature) : Feature :=
  { f with scenarios := f.scenarios.map (Scenario.indented w)
           background := f.background.map (Background.indented w) }

/-- A reading of the same lines with more blanks in front of each. -/
def View.indentation (w : Text) : View :=
  { step := Step.indented w, indent := (· + w.length), keepsLines := true, path := id,
    relativePath := id, indent_step := fun _ => rfl }

/-- A step is scanned in the same way, with its larger indent. -/
theorem ofLine_indented (w : Text) (type : StepType) (keyword text : Text) (indent line : Nat) :
    Step.ofLine type keyword text (indent + w.length) line =
      (Step.ofLine type keyword text indent line).map (Step.indented w) := by
  unfold Step.ofLine
  cases Param.scan text <;> rfl

/-- A line with blanks in front of it is read like the line itself. -/
theorem View.lines_indentation {w : Text} (hw : Text.IsBlanks w) (raw : Text) :
    (View.indentation w).Lines raw (w ++ raw) where
  trim := Text.trim_blanks_append hw raw
  clean := Line.stripComment_blanks_append hw raw
  blank := Text.isBlankLine_blanks_append hw raw
  deeper := by
    intro indent
    rw [Text.indentWidth_blanks_append hw]
    exact Nat.add_lt_add_iff_right
  declared := by
    intro type keyword text line
    rw [Text.indentWidth_blanks_append hw]
    exact ofLine_indented w type keyword text _ line

/-- A step takes up a line with the blanks in front of it. -/
theorem addLine_indented (w raw : Text) (s : Step) :
    (s.indented w).addLine (w ++ raw) = (s.addLine raw).indented w := by
  simp [Step.indented, Step.addLine]

/-! ## Whole documents -/

/-- An indented document describes the same feature with its steps indented, or has the same
fault. -/
theorem parse_indentLines {w : Text} (hw : w.IsIndent) (t : Text) :
    parse (t.indentLines w) = (parse t).map (Feature.indented w) := by
  have hstart : (View.indentation w).Shows (Draft.start [] []) (Draft.start [] []) := by
    constructor <;> rfl
  have hlines : List.Forall₂ (fun raw raw' => (View.indentation w).Lines raw raw' ∧
      ∀ s : Step, (s.indented w).addLine raw' = (s.addLine raw).indented w)
      (Text.lines t) ((Text.lines t).map (w ++ ·)) := by
    rw [List.forall₂_map_right_iff, List.forall₂_same]
    exact fun raw _ => ⟨View.lines_indentation hw.blanks raw, addLine_indented w raw⟩
  have hfeed : (View.indentation w).InStep ((Draft.start [] []).feedAll 1 (Text.lines t))
      ((Draft.start [] []).feedAll 1 (Text.lines (t.indentLines w))) := by
    rw [Text.lines_indentLines hw]
    exact hstart.feedAll rfl hlines
  have hread := hfeed.bind fun _ _ h => h.finish
  rcases hread.readDocument_eq with ⟨f, hf, hf'⟩ | ⟨f, fault, line, hf, hf'⟩
  · rw [parse, parse, hf, hf']
    rfl
  · rw [parse, parse, hf, hf']
    rfl

/-- Blanks in front of every line change neither the fault of a document nor its feature but for
the indents and the captured lines of the steps. The steps have the same names, and the same
contents but for this: where the last line that a step captures is empty, a carriage return at
the very end of the content may be dropped. -/
theorem indentLines_keeps_meaning {w : Text} (hw : w.IsIndent) (t : Text) :
    parse (t.indentLines w) = (parse t).map (Feature.indented w) ∧
    ∀ f, parse t = .ok f → ∀ s ∈ f.allSteps, (s.indented w).name = s.name ∧
      ((s.indented w).content = s.content ∨ (w ≠ [] ∧ s.lines.getLast? = some [] ∧
        ∃ c, s.content = some (c ++ ['\r']) ∧ (s.indented w).content = some c)) := by
  refine ⟨parse_indentLines hw t, fun f hf s hs => ?_⟩
  have hfeed := Feature.feed_notMem_of_mem_allSteps hf s hs
  exact ⟨Step.name_indented hw hfeed, Step.content_indented hw hfeed⟩

/-- A document with a captured text that has a blank line in it, and with a table. -/
theorem indentLines_keeps_meaning_of_captured :
    let t : Text := "Scenario: S\nGiven x\n  abc\n\n    def\nExamples:\n| a |\n| 1 |\n"
    Text.IsIndent [' ', '\t'] ∧ ∃ f, parse t = .ok f ∧
      parse (t.indentLines [' ', '\t']) = .ok (f.indented [' ', '\t']) ∧
      ∀ s ∈ f.allSteps, (s.indented [' ', '\t']).name = s.name :=
  have hw : Text.IsIndent [' ', '\t'] := ⟨by decide, by decide⟩
  have h := indentLines_keeps_meaning hw
    "Scenario: S\nGiven x\n  abc\n\n    def\nExamples:\n| a |\n| 1 |\n"
  ⟨hw, _, rfl, h.1.trans rfl, fun s hs => (h.2 _ rfl s hs).1⟩

/-- The last captured line is empty, and the content ends in a carriage return: it is dropped
with a blank in front of every line. -/
theorem content_changed_by_indentLines :
    let t : Text := "Scenario: S\nGiven x\n  abc\r\r\r\n\nThen y\n"
    Text.IsIndent [' '] ∧ ∃ f, parse t = .ok f ∧
      parse (t.indentLines [' ']) = .ok (f.indented [' ']) ∧
      f.allSteps.map Step.content = [some ['a', 'b', 'c', '\r'], none] ∧
      (f.indented [' ']).allSteps.map Step.content = [some ['a', 'b', 'c'], none] :=
  ⟨⟨by decide, by decide⟩, _, rfl, rfl, rfl, rfl⟩

end FeatureDoc
