/-
# Running scenarios

A scenario runs step by step. The definition of each step is looked for by its canonical text,
its arguments are resolved, and its implementation is called; the first step that fails ends the
run. Whoever watches the run sees an event at every stage.
-/
import FeatureDoc.Run.Context
import FeatureDoc.Registry.Basic
import FeatureDoc.Feature.Coverage

namespace FeatureDoc

/-! ## Failures and events -/

/-- Why a step failed. -/
inductive FailureCause where
  /-- No definition was found. -/
  | notFound
  /-- Its arguments could not be resolved. -/
  | unresolved (cause : ResolveError)
  /-- Its implementation failed. -/
  | handler (cause : StepError)
deriving DecidableEq

/-- A step that failed. -/
structure StepFailure where
  /-- The index of the step among those of the scenario. -/
  index : Nat
  type : StepType
  /-- The text by which its definition was looked for. -/
  text : Text
  /-- The path of the document as messages show it. -/
  featurePath : Text
  /-- The name of the scenario. -/
  scenario : Text
  cause : FailureCause
deriving DecidableEq

/-- Why a run failed. -/
inductive ExecutionError where
  /-- The scenario is not covered. -/
  | validation (cause : CoverageError)
  /-- A step failed. -/
  | step (failure : StepFailure)
deriving DecidableEq

namespace ExecutionError

/-- The step, its scenario and its document, as messages show them. -/
def place (f : StepFailure) : Text :=
  Text.ofNat f.index ++ ": " ++ f.type.word ++ " \"" ++ f.text ++ "\" (scenario \"" ++
    f.scenario ++ "\" in " ++ f.featurePath ++ ")"

/-- What is said about a run that failed. -/
def message : ExecutionError → Text
  | validation cause => cause.message
  | step f =>
    match f.cause with
    | .notFound => "step not found at index " ++ place f
    | .unresolved cause =>
      "cannot resolve arguments of step " ++ place f ++ ": " ++ cause.message
    | .handler cause => "step failed at index " ++ place f ++ ": " ++ cause.message

/-- Whether no definition was found for a step. -/
def isLookupFailure : ExecutionError → Bool
  | step f => f.cause = .notFound
  | validation _ => false

/-- The index of the step that failed. -/
def stepIndex? : ExecutionError → Option Nat
  | step f => some f.index
  | validation _ => none

end ExecutionError

/-- What can be watched of a run. -/
inductive Event where
  | beforeScenario (scenario : Text)
  | beforeStep (step : Step)
  | beforeStepCall (definition : Definition) (args : Arguments)
  | afterStep (definition : Definition) (args : Arguments)
  | afterScenario (scenario : Text)
  | stepError (error : ExecutionError)
  | stepLookupError (error : ExecutionError)

/-- What a run, or a part of one, leaves behind. -/
structure RunResult where
  /-- Why it failed, if it did. -/
  error : Option ExecutionError
  context : Context
  events : List Event
  journal : Journal

/-! ## One step -/

/-- The text by which the definition of a step is looked for. -/
def Step.lookupText (step : Step) : Text := Text.trim step.canonical

/-- The report on a step. -/
def Step.report (step : Step) (index : Nat) (outcome : Outcome) : StepReport :=
  { index, type := step.type, name := step.lookupText, line := step.line, outcome }

/-- Binds the value that a step has yielded to the target of its definition. -/
def Context.injectOutput (c : Context) (d : Definition) (output : Option Value) : Context :=
  match d.target, output with
  | some name, some v => c.inject name v
  | _, _ => c

/-- The arguments for a matched step. -/
def Registry.Match.arguments (m : Registry.Match) (step : Step) (c : Context) :
    Except ResolveError Arguments := do
  step.resolve m.definition.formals (← step.bindings m.captures) c.source

/-- What is made known while the arguments for a matched step are resolved. -/
def Registry.Match.notes (m : Registry.Match) (step : Step) (c : Context) : Journal :=
  match step.bindings m.captures with
  | .ok bound => step.resolveNotes m.definition.formals bound c.source
  | .error _ => []

/-- Runs one step of a scenario. -/
def runStep (r : Registry) (f : Feature) (s : Scenario) (c : Context) (index : Nat)
    (step : Step) : RunResult :=
  let error (cause : FailureCause) : ExecutionError :=
    .step { index, type := step.type, text := step.lookupText, featurePath := f.pathLabel,
            scenario := s.name, cause }
  match r.find? step.type step.lookupText with
  | none =>
    { error := some (error .notFound)
      context := c.record (step.report index .notFound)
      events := [.beforeStep step, .stepLookupError (error .notFound)]
      journal := [] }
  | some m =>
    match m.arguments step c with
    | .error cause =>
      let e := error (.unresolved cause)
      { error := some e
        context := c.record (step.report index (.failed e.message))
        events := [.beforeStep step, .stepError e]
        journal := m.notes step c }
    | .ok args =>
      match m.definition.run args with
      | .error cause =>
        let e := error (.handler cause)
        { error := some e
          context := c.record (step.report index (.failed e.message))
          events := [.beforeStep step, .beforeStepCall m.definition args, .stepError e]
          journal := m.notes step c }
      | .ok output =>
        { error := none
          context := (c.injectOutput m.definition output).record (step.report index .passed)
          events :=
            [.beforeStep step, .beforeStepCall m.definition args, .afterStep m.definition args]
          journal := m.notes step c }

/-! ## A scenario -/

/-- Runs steps from the given index on, up to the first that fails. -/
def runSteps (r : Registry) (f : Feature) (s : Scenario) (c : Context) (index : Nat) :
    List Step → RunResult
  | [] => { error := none, context := c, events := [], journal := [] }
  | step :: rest =>
    let first := runStep r f s c index step
    match first.error with
    | some _ => first
    | none =>
      let others := runSteps r f s first.context (index + 1) rest
      { others with
        events := first.events ++ others.events
        journal := first.journal ++ others.journal }

/-- Runs a scenario of a feature in a context. If scenarios have to be covered, one that is not
fails before anything else happens. -/
def run (r : Registry) (validating : Bool) (f : Feature) (s : Scenario) (c : Context) :
    RunResult :=
  match if validating then f.validate s else .ok () with
  | .error cause => { error := some (.validation cause), context := c, events := [], journal := [] }
  | .ok () =>
    let steps := runSteps r f s c 0 (f.stepsOf s)
    let started : Note := ⟨.debug, .running,
      "running scenario " ++ Text.quoted s.name ++ " from " ++ f.pathLabel⟩
    let passed : Journal := match steps.error with
      | some _ => []
      | none => [⟨.info, .running, "scenario " ++ Text.quoted s.name ++ " passed"⟩]
    { steps with
      events := .beforeScenario s.name :: steps.events ++ [.afterScenario s.name]
      journal := started :: steps.journal ++ passed }

end FeatureDoc
