/-
# Outlines

An outline is a document as a tree: a heading, the steps of a background, and scenarios with
their steps. It is written with one item on a line, and without indents, comments, descriptions
or tables. This module says which outlines can be written, how they are written, and which
feature the written document describes.
-/
import FeatureDoc.Feature.Basic
import FeatureDoc.Proofs.Line.Tags

namespace FeatureDoc

/-! ## Trees -/

/-- How the line of a step begins. -/
inductive Outline.Opening where
  /-- With the keyword of its type. -/
  | own
  | and
  | but
deriving DecidableEq

/-- A step. -/
structure Outline.WrittenStep where
  type : StepType
  opening : Outline.Opening
  text : Text

/-- A scenario. -/
structure Outline.WrittenScenario where
  name : Text
  tags : List Text
  steps : List Outline.WrittenStep

/-- The name of a feature. -/
structure Outline.Heading where
  name : Text
  tags : List Text

/-- A document. -/
structure Outline where
  heading : Option Outline.Heading
  /-- The steps of the background. -/
  background : Option (List Outline.WrittenStep)
  scenarios : List Outline.WrittenScenario

namespace Outline

/-! ## Outlines that can be written -/

/-- Steps that begin with `And` or `But` have the type of the step before them, for which there is
none in front of the first one. -/
def Continued : Option StepType → List WrittenStep → Prop
  | _, [] => True
  | before, s :: rest => (s.opening = .own ∨ before = some s.type) ∧ Continued (some s.type) rest

instance : ∀ before steps, Decidable (Continued before steps)
  | _, [] => isTrue trivial
  | before, s :: rest =>
    let := instDecidableContinued (some s.type) rest
    inferInstanceAs (Decidable ((s.opening = .own ∨ before = some s.type) ∧ _))

/-- Steps that can be written one after the other. -/
structure StepsWellFormed (steps : List WrittenStep) : Prop where
  phrases : ∀ s ∈ steps, s.text.IsPhrase
  /-- Scanning their texts causes no fault. -/
  scans : ∀ s ∈ steps, ∃ scanned, Param.scan s.text = .ok scanned
  continued : Continued none steps

instance (t : Text) : Decidable (∃ scanned, Param.scan t = .ok scanned) :=
  match Param.scan t with
  | .ok scanned => isTrue ⟨scanned, rfl⟩
  | .error _ => isFalse fun ⟨_, hok⟩ => by cases hok

instance : DecidablePred StepsWellFormed := fun steps =>
  decidable_of_iff ((∀ s ∈ steps, s.text.IsPhrase) ∧
      (∀ s ∈ steps, ∃ scanned, Param.scan s.text = .ok scanned) ∧ Continued none steps)
    ⟨fun ⟨hphrases, hscans, hcontinued⟩ => ⟨hphrases, hscans, hcontinued⟩,
      fun h => ⟨h.phrases, h.scans, h.continued⟩⟩

/-- A scenario that can be written. -/
structure WrittenScenario.WellFormed (s : WrittenScenario) : Prop where
  name : s.name.IsPhrase
  tags : ∀ tag ∈ s.tags, Line.IsTag tag
  steps : StepsWellFormed s.steps
  ne_nil : s.steps ≠ []

instance : DecidablePred WrittenScenario.WellFormed := fun s =>
  decidable_of_iff (s.name.IsPhrase ∧ (∀ tag ∈ s.tags, Line.IsTag tag) ∧
      StepsWellFormed s.steps ∧ s.steps ≠ [])
    ⟨fun ⟨hname, htags, hsteps, hne⟩ => ⟨hname, htags, hsteps, hne⟩,
      fun h => ⟨h.name, h.tags, h.steps, h.ne_nil⟩⟩

/-- A document that can be written. -/
structure WellFormed (o : Outline) : Prop where
  name : ∀ h ∈ o.heading, h.name.IsPhrase
  tags : ∀ h ∈ o.heading, ∀ tag ∈ h.tags, Line.IsTag tag
  background : ∀ steps ∈ o.background, StepsWellFormed steps
  /-- After an outcome the background is over. -/
  outcome : ∀ steps ∈ o.background, ∀ s ∈ steps.dropLast, s.type ≠ .outcome
  scenarios : ∀ s ∈ o.scenarios, s.WellFormed
  distinct : (o.scenarios.map WrittenScenario.name).Nodup

/-! ## Writing -/

/-- The keyword with which the line of a step of a type begins. -/
def Opening.keyword (type : StepType) : Opening → Text
  | own => type.keyword
  | and => "And"
  | but => "But"

/-- The keyword of a step. -/
def WrittenStep.keyword (s : WrittenStep) : Text := s.opening.keyword s.type

/-- The line of a step. -/
def WrittenStep.write (s : WrittenStep) : Text := s.keyword ++ ' ' :: s.text

/-- The line of tags above a declaration, if it has any. -/
def tagLines (tags : List Text) : List Text := if tags = [] then [] else [Line.writeTags tags]

/-- The lines of a scenario. -/
def WrittenScenario.lines (s : WrittenScenario) : List Text :=
  tagLines s.tags ++ ("Scenario: " ++ s.name) :: s.steps.map WrittenStep.write

/-- The lines of the heading. -/
def headingLines (o : Outline) : List Text :=
  match o.heading with
  | none => []
  | some h => tagLines h.tags ++ ["Feature: " ++ h.name]

/-- The lines of the background. -/
def backgroundLines (o : Outline) : List Text :=
  match o.background with
  | none => []
  | some steps => "Background:".toList :: steps.map WrittenStep.write

/-- The lines of a document. -/
def lines (o : Outline) : List Text :=
  o.headingLines ++ o.backgroundLines ++ o.scenarios.flatMap WrittenScenario.lines

/-- A document as a text. -/
def write (o : Outline) : Text := Text.writeLines o.lines

/-! ## The feature that is described -/

/-- The step on a line. -/
def WrittenStep.read (line : Nat) (s : WrittenStep) : Step :=
  let scanned := (Param.scan s.text).toOption
  { type := s.type, keyword := s.keyword, text := s.text, lines := [],
    canonical := Param.canonicalize s.text, indent := 0,
    constants := (scanned.map Param.Scanned.constants).getD [],
    aliases := (scanned.map Param.Scanned.aliases).getD [], line }

/-- The steps on the lines from the given number on. -/
def readSteps (line : Nat) : List WrittenStep → List Step
  | [] => []
  | s :: rest => s.read line :: readSteps (line + 1) rest

/-- The scenario on the lines from the given number on. -/
def WrittenScenario.read (line : Nat) (s : WrittenScenario) : Scenario :=
  let declared := line + (tagLines s.tags).length
  { name := s.name, line := declared, keyword := "Scenario:", tags := Text.sortedSet s.tags,
    description := [], steps := readSteps (declared + 1) s.steps, examples := [] }

/-- The scenarios on the lines from the given number on. -/
def readScenarios (line : Nat) : List WrittenScenario → List Scenario
  | [] => []
  | s :: rest => s.read line :: readScenarios (line + s.lines.length) rest

/-- The feature of the heading, on the first lines. -/
def readHeading (o : Outline) : Feature :=
  match o.heading with
  | none => .empty [] []
  | some h =>
    { Feature.empty [] [] with
      name := some h.name, tags := Text.sortedSet h.tags, line := 1 + (tagLines h.tags).length }

/-- The background on the lines from the given number on. -/
def readBackground (line : Nat) (steps : List WrittenStep) : Background :=
  { line, description := [], steps := readSteps (line + 1) steps }

/-- The feature that a document describes. -/
def feature (o : Outline) : Feature :=
  let line := 1 + o.headingLines.length
  { o.readHeading with
    background := o.background.map (readBackground line)
    scenarios := readScenarios (line + o.backgroundLines.length) o.scenarios }

end Outline

end FeatureDoc
