/-
# Features under construction

A document is read line by line. What has been read so far is a draft: the feature up to here,
and what the meaning of the next line depends on. `Draft.feed` takes up one line. A line either
continues the last step, or declares something, or is a plain line whose meaning the mode
decides.
-/
import FeatureDoc.Feature.Basic
import FeatureDoc.Feature.ReadError
import FeatureDoc.Line.Comment
import FeatureDoc.Line.Kind
import FeatureDoc.Line.Tags
import FeatureDoc.Line.Cells
import FeatureDoc.Text.Quoted
import FeatureDoc.Journal

namespace FeatureDoc

/-! ## The state of reading -/

/-- What a line means that is taken up. -/
inductive Draft.Mode where
  /-- It names or describes the feature. -/
  | feature
  /-- It declares or describes the open scenario. -/
  | scenario
  /-- It declares or describes the background. -/
  | background
  /-- It opens a horizontal block. -/
  | examples
  /-- It opens a vertical block. -/
  | verticalExamples
  /-- It is the header of a horizontal block. -/
  | header
  /-- It is a row of a horizontal block. -/
  | row
  /-- It is a column of a vertical block. -/
  | column
  /-- It is a step of this type. -/
  | step (type : StepType)
  /-- It is a tag line, or follows one and means nothing. -/
  | tag
deriving DecidableEq, Repr

/-- Whose steps a step joins. -/
inductive Draft.Owner where
  | background
  /-- The open scenario. -/
  | scenario
deriving DecidableEq, Repr

/-- The last step, as long as lines may continue it. -/
structure Draft.OpenStep where
  /-- Whose last step it is. -/
  owner : Draft.Owner
  /-- The indent that a line has to exceed to continue the step. -/
  indent : Nat
deriving DecidableEq, Repr

/-- What has been read of a document. -/
structure Draft where
  /-- The feature up to here. -/
  feature : Feature
  /-- The name of the scenario that is open; a scenario stays open up to the next one. -/
  scenario : Option Text
  /-- What the next plain line means; before the first declaration it means nothing. -/
  mode : Option Draft.Mode
  /-- What the last line meant that was taken up. -/
  lastMode : Option Draft.Mode
  /-- The lines that describe the feature. -/
  prose : List Text
  /-- The last step, as long as lines may continue it. -/
  openStep : Option Draft.OpenStep
  /-- Whether a line has continued the last step already, so that blank lines continue it too. -/
  capturing : Bool
  /-- The last line that was not taken up by a step, without its comment. -/
  lastLine : Option Text
  /-- The example block of the open scenario that is being read. -/
  scenarioBlock : Option ExampleBlock
  /-- The example block of the feature that is being read. -/
  featureBlock : Option ExampleBlock
  /-- What has been made known. -/
  journal : Journal

/-- Why reading stopped, and what had been made known before. -/
structure Draft.Halt where
  error : ReadError
  journal : Journal

namespace Draft

/-- The draft before the first line. -/
def start (path relativePath : Path) : Draft :=
  { feature := .empty path relativePath, scenario := none, mode := none, lastMode := none,
    prose := [], openStep := none, capturing := false, lastLine := none, scenarioBlock := none,
    featureBlock := none, journal := [] }

/-- Stops reading at a fault. -/
def fail {α : Type} (d : Draft) (line : Nat) (fault : ReadFault) : Except Halt α :=
  .error ⟨⟨fault, line, d.feature.pathLabel⟩, d.journal⟩

/-- Makes something known. -/
def note (d : Draft) (level : Level) (message : Text) : Draft :=
  { d with journal := d.journal ++ [⟨level, .reading, message⟩] }

/-- Takes up a line with the given meaning; the next plain line has it too. -/
def enter (d : Draft) (mode : Mode) : Draft :=
  { d with mode := some mode, lastMode := some mode }

/-! ## The open scenario -/

/-- The open scenario. -/
def openScenario? (d : Draft) : Option Scenario := d.scenario.bind d.feature.scenario?

/-- Changes the open scenario, if there is one. -/
def updateOpenScenario (d : Draft) (change : Scenario → Scenario) : Draft :=
  { d with feature := match d.scenario with
    | some name => d.feature.updateScenario name change
    | none => d.feature }

/-! ## Lines that continue a step -/

/-- The last member of a list changed. -/
def changeLast {α : Type} (change : α → α) : List α → List α
  | [] => []
  | [a] => [change a]
  | a :: rest => a :: changeLast change rest

/-- The steps of an owner, if the document has it. -/
def steps? (d : Draft) : Owner → Option (List Step)
  | .background => d.feature.background.map Background.steps
  | .scenario => d.openScenario?.map Scenario.steps

/-- Changes the steps of an owner, if the document has it. -/
def updateSteps (d : Draft) (change : List Step → List Step) (owner : Owner) : Draft :=
  { d with feature := match owner with
    | .background => d.feature.updateBackground fun b => { b with steps := change b.steps }
    | .scenario => (d.updateOpenScenario fun s => { s with steps := change s.steps }).feature }

/-- Whether a line continues the last step: it is indented deeper than the step, or blank after
another line that continues it. -/
def captures (d : Draft) (raw : Text) : Bool :=
  match d.openStep with
  | none => false
  | some s => s.indent < Text.indentWidth raw || (Text.isBlankLine raw && d.capturing)

/-- Adds a line to the last step. -/
def capture (d : Draft) (raw : Text) : Draft :=
  match d.openStep with
  | none => d
  | some s => { d.updateSteps (changeLast (Step.addLine · raw)) s.owner with capturing := true }

/-- Lets no further line continue the last step. -/
def release (d : Draft) : Draft :=
  { d with openStep := none, capturing := d.openStep.isNone && d.capturing }

/-! ## Example blocks -/

/-- The fault of a vertical block whose columns have not the same number of cells. -/
def raggedColumn? (b : ExampleBlock) : Option ReadFault :=
  match b.orientation, b.names.zip b.values with
  | .vertical, (first, expected) :: columns =>
    (columns.find? fun column => column.2.length ≠ expected.length).map fun column =>
      .raggedColumn first column.1 expected.length column.2.length
  | _, _ => none

/-- What remains of a block that is closed: nothing if it has no cells. A ragged one is a
fault. -/
def checkBlock (d : Draft) (b : ExampleBlock) : Except Halt (Option ExampleBlock) :=
  if b.isEmpty then .ok none
  else match raggedColumn? b with
    | some fault => d.fail b.line fault
    | none => .ok (some b)

/-- Adds a block to the open scenario. -/
def addScenarioBlock (d : Draft) (b : ExampleBlock) : Draft :=
  match d.openScenario? with
  | none => d
  | some target =>
    (d.updateOpenScenario fun s => { s with examples := s.examples ++ [b] }).note .debug
      ("flushed examples from line " ++ Text.ofNat b.line ++ " into scenario " ++
        Text.quoted target.name)

/-- Adds a block to the feature. -/
def addFeatureBlock (d : Draft) (b : ExampleBlock) : Draft :=
  { d with feature := { d.feature with examples := d.feature.examples ++ [b] } }
    |>.note .debug ("flushed feature examples from line " ++ Text.ofNat b.line)

/-- Closes the block of the open scenario. -/
def closeScenarioBlock (d : Draft) : Except Halt Draft :=
  match d.scenarioBlock with
  | none => .ok d
  | some b =>
    let d := { d with scenarioBlock := none }
    (d.checkBlock b).map fun kept => (kept.map d.addScenarioBlock).getD d

/-- Closes the block of the feature. -/
def closeFeatureBlock (d : Draft) : Except Halt Draft :=
  match d.featureBlock with
  | none => .ok d
  | some b =>
    let d := { d with featureBlock := none }
    (d.checkBlock b).map fun kept => (kept.map d.addFeatureBlock).getD d

/-- Closes both blocks. -/
def closeBlocks (d : Draft) : Except Halt Draft := do (← d.closeScenarioBlock).closeFeatureBlock

/-- What the first line means below the line that opens a block. -/
def fillMode : Orientation → Mode
  | .horizontal => .header
  | .vertical => .column

/-- Opens a block, after closing the one before it: in the open scenario, or in the feature while
none is open. -/
def declareExamples (d : Draft) (line : Nat) (orientation : Orientation) : Except Halt Draft := do
  let mode := some (fillMode orientation)
  match d.scenario with
  | some _ => return { ← d.closeScenarioBlock with
      scenarioBlock := some (.opened orientation line), mode }
  | none => return { ← d.closeFeatureBlock with
      featureBlock := some (.opened orientation line), mode }

/-- The block that lines are added to: that of the open scenario, or of the feature while none is
open. -/
def openBlock? (d : Draft) : Option ExampleBlock :=
  match d.scenario with
  | some _ => d.scenarioBlock
  | none => d.featureBlock

/-- Changes the block that lines are added to, if there is one. -/
def updateBlock (d : Draft) (change : ExampleBlock → ExampleBlock) : Draft :=
  match d.scenario with
  | some _ => { d with scenarioBlock := d.scenarioBlock.map change }
  | none => { d with featureBlock := d.featureBlock.map change }

/-- Takes up the header of a horizontal block; empty cells name no column. -/
def addHeader (d : Draft) (text : Text) : Draft :=
  { d.updateBlock fun b => { b with names := (Line.splitCells text).filter (· ≠ []) } with
    mode := some .row }

/-- Takes up a row of a horizontal block. -/
def addRow (d : Draft) (line : Nat) (text : Text) : Except Halt Draft :=
  let cells := Line.splitCells text
  match d.openBlock? with
  | none => .ok d
  | some b =>
    if cells.length ≠ b.names.length then
      d.fail line (.raggedRow b.names.length cells.length text)
    else .ok (d.updateBlock fun b => { b with values := b.values ++ [cells] })

/-- Takes up a column of a vertical block. -/
def addColumn (d : Draft) (line : Nat) (text : Text) : Except Halt Draft :=
  match Line.splitCells text with
  | [] => d.fail line (.namelessColumn text)
  | name :: cells =>
    match d.openBlock? with
    | none => .ok d
    | some b =>
      if name ∈ b.names then d.fail line (.duplicateColumn name)
      else .ok (d.updateBlock fun b =>
        { b with names := b.names ++ [name], values := b.values ++ [cells] })

/-! ## Declarations -/

/-- The tags on the line before a declaration, if that is a tag line. -/
def precedingTags (d : Draft) : List Text :=
  match d.lastLine with
  | some line => if line.head? = some '@' then Line.parseTags line else []
  | none => []

/-- Takes up a line of the feature: it names the feature, once and with nothing but tags before
it. Right after that, lines describe the feature, also one that looks like another
declaration. -/
def takeFeatureLine (d : Draft) (line : Nat) (clean : Text) (c : Line.Classified) :
    Except Halt Draft :=
  let named : Except Halt Draft :=
    if d.feature.name = none then
      .ok { d.enter .feature with
        feature := { d.feature with name := some c.text, line, tags := d.precedingTags } }
    else d.fail line (.misplaced .secondFeature clean)
  match d.lastMode with
  | none | some .tag => named
  | some .feature => .ok { d.enter .feature with prose := d.prose ++ [clean] }
  | _ => d.fail line (.misplaced .secondFeature clean)

/-- The name of the open scenario, if it has no steps of its own. -/
def stepless? (d : Draft) : Option Text :=
  match d.openScenario? with
  | some s => if s.steps = [] then some s.name else none
  | none => none

/-- Makes a scenario the open one, in place of an earlier one of its name. -/
def openScenario (d : Draft) (s : Scenario) : Draft :=
  let d := d.note .debug
    ("registered scenario " ++ Text.quoted s.name ++ " at line " ++ Text.ofNat s.line)
  let d := match d.feature.scenario? s.name with
    | none => d
    | some earlier => d.note .warn
        ("scenario " ++ Text.quoted s.name ++ " at line " ++ Text.ofNat s.line ++
          " replaces the one declared at line " ++ Text.ofNat earlier.line ++ " in " ++
          d.feature.pathLabel)
  { d with
    feature := { d.feature with scenarios := Feature.putScenario s d.feature.scenarios }
    scenario := some s.name }

/-- Declares a scenario, after closing the open blocks. The scenario before it must have a step
of its own. -/
def declareScenario (d : Draft) (line : Nat) (clean : Text) (c : Line.Classified) :
    Except Halt Draft := do
  let d ← d.closeBlocks
  match d.stepless? with
  | some name => d.fail line (.misplaced (.stepless name) clean)
  | none => return d.openScenario (.declared c.text c.keyword line d.precedingTags)

/-- Declares a background, in place of an earlier one. -/
def declareBackground (d : Draft) (line : Nat) : Draft :=
  let d := match d.feature.background with
    | none => d
    | some earlier => d.note .warn
        ("background at line " ++ Text.ofNat line ++ " replaces the one declared at line " ++
          Text.ofNat earlier.line ++ " in " ++ d.feature.pathLabel)
  { d with feature := { d.feature with background := some (.declared line) } }

/-- Whether a step may follow while no scenario is open: after the declaration of a background,
or after one of its steps that is not an outcome. -/
def takesBackgroundStep (d : Draft) : Bool :=
  match d.lastMode with
  | some .background => true
  | some (.step type) => type ≠ .outcome
  | _ => false

/-- Whose step the next one is: that of the background as long as no scenario is open. -/
def stepOwner (d : Draft) : Owner :=
  if d.feature.background.isSome ∧ d.scenario = none then .background else .scenario

/-- Adds a step to the steps of an owner; the next lines may continue it. -/
def appendStep (d : Draft) (owner : Owner) (step : Step) : Draft :=
  { d.updateSteps (· ++ [step]) owner with
    openStep := some { owner, indent := step.indent }, capturing := false }

/-- Adds a step to the steps that it joins. -/
def addStep (d : Draft) (line : Nat) (raw : Text) (type : StepType) (c : Line.Classified) :
    Except Halt Draft :=
  match Step.ofLine type c.keyword c.text (Text.indentWidth raw) line with
  | .error cause => d.fail line (.parameter cause c.text)
  | .ok step =>
    match d.steps? d.stepOwner with
    | none => d.fail line (.misplaced .strayStep c.text)
    | some _ => .ok (d.appendStep d.stepOwner step)

/-- Declares a step of the open scenario or of the background. -/
def declareStep (d : Draft) (line : Nat) (raw clean : Text) (type : StepType)
    (c : Line.Classified) : Except Halt Draft :=
  if d.scenario = none ∧ ¬d.takesBackgroundStep then d.fail line (.misplaced .strayStep clean)
  else (d.enter (.step type)).addStep line raw type c

/-! ## Plain lines -/

/-- Adds a line to the description of the open scenario. -/
def describeScenario (d : Draft) (clean : Text) : Draft :=
  d.updateOpenScenario fun s => { s with description := appendLine s.description clean }

/-- Adds a line to the description of the background. -/
def describeBackground (d : Draft) (clean : Text) : Draft :=
  { d with feature := d.feature.updateBackground fun b =>
    { b with description := appendLine b.description clean } }

/-- Takes up a plain line. -/
def takePlainLine (d : Draft) (line : Nat) (raw clean : Text) (c : Line.Classified) :
    Except Halt Draft :=
  match d.mode with
  | none => .ok { d with lastMode := none }
  | some .tag => .ok (d.enter .tag)
  | some .feature => d.takeFeatureLine line clean c
  | some .scenario => .ok ((d.enter .scenario).describeScenario clean)
  | some .background => .ok ((d.enter .background).describeBackground clean)
  | some .examples => (d.enter .examples).declareExamples line .horizontal
  | some .verticalExamples => (d.enter .verticalExamples).declareExamples line .vertical
  | some .header => .ok ((d.enter .header).addHeader c.text)
  | some .row => (d.enter .row).addRow line (Text.trim raw)
  | some .column => (d.enter .column).addColumn line (Text.trim raw)
  | some (.step type) => d.declareStep line raw clean type c

/-! ## Lines -/

/-- Takes up a line by what it declares. -/
def declare (d : Draft) (line : Nat) (raw clean : Text) (c : Line.Classified) :
    Except Halt Draft :=
  match c.kind with
  | some .feature => d.takeFeatureLine line clean c
  | some .scenario | some .scenarioOutline => (d.enter .scenario).declareScenario line clean c
  | some .background => .ok ((d.enter .background).declareBackground line)
  | some .examples => (d.enter .examples).declareExamples line .horizontal
  | some .verticalExamples => (d.enter .verticalExamples).declareExamples line .vertical
  | some (.step type) => d.declareStep line raw clean type c
  | some .tag => .ok (d.enter .tag)
  | some .continuation =>
    match d.mode with
    | some (.step type) => d.declareStep line raw clean type c
    | _ => d.fail line (.misplaced .continuationOfNothing clean)
  | none => d.takePlainLine line raw clean c

/-- What is made known about a line that is taken up. -/
def lineMessage (line : Nat) (clean : Text) (c : Line.Classified) : Text :=
  let kind : Text := match c.kind with
    | some kind => "Some(" ++ kind.label ++ ")"
    | none => "None"
  "line " ++ Text.ofNat line ++ ": " ++ kind ++ " " ++ Text.quoted clean

/-- Takes up one line of the document. Blank lines and comments mean nothing, except that they
belong to the description of a feature. -/
def feed (d : Draft) (line : Nat) (raw : Text) : Except Halt Draft :=
  if d.captures raw then .ok (d.capture raw)
  else
    let d := d.release
    let clean := Line.stripComment raw
    if clean = [] ∧ d.lastMode ≠ some .feature then .ok d
    else do
      let c := Line.classify clean
      let d ← (d.note .trace (lineMessage line clean c)).declare line raw clean c
      return { d with lastLine := some clean }

/-- Takes up lines from the given number on. -/
def feedAll (d : Draft) (line : Nat) : List Text → Except Halt Draft
  | [] => .ok d
  | raw :: rest => do (← d.feed line raw).feedAll (line + 1) rest

/-- The draft after the last line: the open blocks are closed and the description put
together. -/
def finish (d : Draft) : Except Halt Draft := do
  let d ← { d with openStep := none }.closeBlocks
  let feature := { d.feature with description := Text.trim (Text.unlines d.prose) }
  return { d with feature }.note .debug
    ("parsed feature " ++ Text.quoted (feature.name.getD []) ++ " from " ++ feature.pathLabel ++
      " with " ++ Text.ofNat feature.scenarios.length ++ " scenario(s)")

end Draft

/-! ## Whole documents -/

/-- What reading a document yields. -/
structure Reading where
  /-- The feature, or why there is none. -/
  result : Except ReadError Feature
  /-- What has been made known. -/
  journal : Journal

/-- Reads the document with the given paths. -/
def readDocument (path relativePath : Path) (t : Text) : Reading :=
  match (Draft.start path relativePath).feedAll 1 (Text.lines t) >>= Draft.finish with
  | .ok d => { result := .ok d.feature, journal := d.journal }
  | .error halt => { result := .error halt.error, journal := halt.journal }

/-- The feature that a text describes, without a file that it would come from. -/
def parse (t : Text) : Except ReadError Feature := (readDocument [] [] t).result

end FeatureDoc
