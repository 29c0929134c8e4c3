/-
# Steps

A step is a line of a scenario with the lines that continue it. Its canonical text and the names
bound by its parameters come from scanning the line; its content comes from the lines below it.
-/
import FeatureDoc.StepType
import FeatureDoc.Text.Margin
import FeatureDoc.Param.Scan

namespace FeatureDoc

/-- A step of a scenario or of a background. -/
structure Step where
  /-- What the step is for. -/
  type : StepType
  /-- The keyword at the beginning of its line; a step without one has the empty keyword. -/
  keyword : Text
  /-- What follows the keyword. -/
  text : Text
  /-- The lines that continue the step, as they stand in the document. -/
  lines : List Text
  /-- The text with every parameter in its general form. -/
  canonical : Text
  /-- The indent of its line. -/
  indent : Nat
  /-- The names that its text binds to constants. -/
  constants : Dictionary Param.Constant
  /-- The names that its text binds to aliases. -/
  aliases : Dictionary Param.Alias
  /-- The number of its line. -/
  line : Nat

namespace Step

/-- The step that a line declares; no line continues it yet. -/
def ofLine (type : StepType) (keyword text : Text) (indent line : Nat) :
    Except Param.ScanError Step := do
  let scanned ← Param.scan text
  return { type, keyword, text, lines := [], canonical := scanned.canonical, indent,
           constants := scanned.constants, aliases := scanned.aliases, line }

/-- The step with one more line that continues it. -/
def addLine (step : Step) (line : Text) : Step := { step with lines := step.lines ++ [line] }

/-! ## Content and name -/

/-- The line that opens and closes a quoted content. -/
def quoteMark : Text := ['"', '"', '"']

/-- Whether a line is a quote mark, with blanks after it or not. -/
def isQuoteMark (line : Text) : Bool := Text.trimEnd line = quoteMark

/-- Lines without the blank ones at the end. -/
def dropBlankEnd (ls : List Text) : List Text := (ls.reverse.dropWhile Text.isBlankLine).reverse

/-- The lines between a first and a last line that are quote marks; other lines stay. -/
def unquote (ls : List Text) : List Text :=
  match ls with
  | [] => []
  | first :: rest =>
    match rest.getLast? with
    | some last => if isQuoteMark first ∧ isQuoteMark last then rest.dropLast else ls
    | none => ls

/-- The text in the lines that continue the step: without their margin, without blank lines at
the end and without the quote marks around it. -/
def content (step : Step) : Option Text :=
  if step.lines = [] then none
  else
    let ls := Text.lines (Text.dedent (Text.unlines step.lines))
    some (Text.unlines (unquote (dropBlankEnd ls)))

/-- The canonical text with the content below it. -/
def name (step : Step) : Text :=
  match step.content with
  | some content => Text.trim (step.canonical ++ '\n' :: content)
  | none => Text.trim step.canonical

/-- The names that the step needs values for: its general parameters and the targets of its
aliases, in increasing order. -/
def params (step : Step) : List Text :=
  Text.sortedSet (Param.generals step.text ++ step.aliases.map fun entry => entry.2.target)

/-- The step as reports show it: its type and its name between quotes. -/
def display (step : Step) : Text := step.type.word ++ " \"" ++ step.name ++ "\""

end Step

end FeatureDoc
