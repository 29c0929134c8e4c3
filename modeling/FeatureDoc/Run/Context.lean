/-
# Contexts

A context holds what one run of a scenario needs and produces: the example row, the values that
steps have yielded, and a report on each step.
-/
import FeatureDoc.Argument.Resolution
import FeatureDoc.Example.Combination

namespace FeatureDoc

/-- How a step came out. -/
inductive Outcome where
  | passed
  | failed (message : Text)
  /-- No definition was found. -/
  | notFound
deriving DecidableEq, Repr

/-- A report on one step. -/
structure StepReport where
  /-- The index of the step among those of the scenario. -/
  index : Nat
  type : StepType
  /-- The text by which its definition was looked for. -/
  name : Text
  /-- The number of its line. -/
  line : Nat
  outcome : Outcome
deriving DecidableEq, Repr

/-- What one run of a scenario needs and produces. -/
structure Context where
  /-- The path of the document. -/
  featurePath : Path
  /-- The name of the scenario. -/
  scenario : Text
  /-- The example row, if the scenario runs with one. -/
  row : Option Row
  /-- The values bound so far. -/
  values : Dictionary Value
  /-- The reports on steps, from the first to the last. -/
  reports : List StepReport

namespace Context

/-- The context for a scenario, without a row. -/
def ofScenario (f : Feature) (s : Scenario) : Context :=
  { featurePath := f.path, scenario := s.name, row := none, values := [], reports := [] }

/-- The context with a row. -/
def withRow (c : Context) (row : Row) : Context := { c with row := some row }

/-- The contexts for all instances of a scenario. -/
def ofInstances (f : Feature) (s : Scenario) (o : Conversion) :
    Except ConversionRefused (List Context) :=
  (f.groups s o).map fun groups => (instances groups).map (ofScenario f s).withRow

/-- Binds a name to a value. -/
def inject (c : Context) (name : Text) (v : Value) : Context :=
  { c with values := c.values.insert name v }

/-- The value bound to a name. -/
def value? (c : Context) (name : Text) : Option Value := c.values.find? name

/-- Adds a report. -/
def record (c : Context) (report : StepReport) : Context :=
  { c with reports := c.reports ++ [report] }

/-- Whether all steps reported so far have passed. -/
def passed (c : Context) : Bool := c.reports.all fun report => report.outcome = .passed

/-- The value bound to a name, or the error that there is none. -/
def lookup (c : Context) (name : Text) : Except LookupError Value :=
  match c.value? name with
  | some v => .ok v
  | none => .error (.notFound name)

/-- The context as the source of values. -/
def source (c : Context) : Source := { row := c.row, lookup := c.lookup }

end Context

end FeatureDoc
