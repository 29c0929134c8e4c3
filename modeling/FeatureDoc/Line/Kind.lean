/-
# Kinds of lines

The beginning of a line decides what it declares. The beginnings are tried in a fixed order, so
that `Examples: Vertical` is not taken for `Examples:`.
-/
import FeatureDoc.StepType

namespace FeatureDoc.Line

/-- What a line declares. -/
inductive Kind where
  | feature
  | scenarioOutline
  | verticalExamples
  | examples
  | scenario
  | background
  | step (type : StepType)
  | tag
  /-- A step that has the type of the step before it. -/
  | continuation
deriving DecidableEq, Repr

namespace Kind

/-- The name of a kind in diagnostics. -/
def label : Kind → Text
  | feature => "Feature"
  | scenarioOutline => "ScenarioOutline"
  | verticalExamples => "ExamplesVertical"
  | examples => "Examples"
  | scenario => "Scenario"
  | background => "Background"
  | step type => type.keyword
  | tag => "Tag"
  | continuation => "Continue"

/-- Whether the line declares a scenario. -/
def isScenario : Kind → Bool
  | scenario | scenarioOutline => true
  | _ => false

/-- The type of the step that the line declares by its own keyword. -/
def stepType? : Kind → Option StepType
  | step type => some type
  | _ => none

end Kind

/-- The beginnings that declare something, in the order in which they are tried. -/
def leads : List (Text × Kind) := [
  ("Feature: ", .feature),
  ("Scenario Outline: ", .scenarioOutline),
  ("Examples: Vertical", .verticalExamples),
  ("Examples:", .examples),
  ("Scenario: ", .scenario),
  ("Background:", .background),
  ("Given ", .step .context),
  ("When ", .step .action),
  ("Then ", .step .outcome),
  ("@", .tag),
  ("And ", .continuation),
  ("But ", .continuation)]

/-- A line taken apart: what it declares, the keyword that says so, and what follows. -/
structure Classified where
  /-- What the line declares; a plain line declares nothing. -/
  kind : Option Kind
  /-- The beginning of the line without blanks at its end; a plain line has none. -/
  keyword : Text
  /-- What follows the keyword, or the whole plain line, without surrounding blanks. -/
  text : Text
deriving DecidableEq

/-- Takes a line apart by one beginning, if it begins so. -/
def classifyBy? (line : Text) (lead : Text × Kind) : Option Classified :=
  (Text.after? lead.1 line).map fun rest =>
    { kind := some lead.2, keyword := Text.trimEnd lead.1, text := Text.trim rest }

/-- Takes a line apart by the first beginning that it has. -/
def classify (line : Text) : Classified :=
  (leads.findSome? (classifyBy? line)).getD { kind := none, keyword := [], text := Text.trim line }

end FeatureDoc.Line
