/-
# Covered parameters

The steps of a scenario need values for their parameters, and example blocks give values to
their columns. A scenario with parameters and with examples is covered if every parameter has a
column.
-/
import FeatureDoc.Feature.Basic
import FeatureDoc.Text.Quoted

namespace FeatureDoc

/-- The parameters and the columns of a scenario that is not covered. -/
structure CoverageError where
  /-- The name of the scenario. -/
  scenario : Text
  /-- The path of the document as messages show it. -/
  featurePath : Text
  /-- The parameters that its steps need, in increasing order. -/
  stepParams : List Text
  /-- The columns that give values, in increasing order. -/
  exampleParams : List Text
deriving DecidableEq, Repr

namespace CoverageError

/-- What is said about a scenario that is not covered. -/
def message (e : CoverageError) : Text :=
  "scenario \"" ++ e.scenario ++ "\" in the feature \"" ++ e.featurePath ++
    "\" has invalid examples: set of step parameters " ++ Text.quotedList e.stepParams ++
    " should match set of example values " ++ Text.quotedList e.exampleParams

/-- The parameters without a column. -/
def missing (e : CoverageError) : List Text := e.stepParams.filter (· ∉ e.exampleParams)

end CoverageError

namespace Feature

/-- The parameters that the steps of a scenario need, with those of the background, in
increasing order. -/
def stepParams (f : Feature) (s : Scenario) : List Text :=
  Text.sortedSet ((f.stepsOf s).flatMap Step.params)

/-- The example blocks that hold for a scenario: its own and those of the feature. -/
def blocksOf (f : Feature) (s : Scenario) : List ExampleBlock := s.examples ++ f.examples

/-- The columns that give values in a scenario, in increasing order. -/
def exampleParams (f : Feature) (s : Scenario) : List Text :=
  Text.sortedSet ((f.blocksOf s).flatMap ExampleBlock.names)

/-- Whether every parameter of a scenario has a column; without parameters or without columns
nothing is asked for. -/
def isCovered (f : Feature) (s : Scenario) : Bool :=
  f.stepParams s = [] || f.exampleParams s = [] ||
    (f.stepParams s).all fun name => name ∈ f.exampleParams s

/-- Checks that a scenario is covered. -/
def validate (f : Feature) (s : Scenario) : Except CoverageError Unit :=
  if f.isCovered s then .ok ()
  else .error { scenario := s.name, featurePath := f.pathLabel, stepParams := f.stepParams s,
                exampleParams := f.exampleParams s }

end Feature

end FeatureDoc
