/-
# The cells of a table row

The cells of a row stand between delimiters, which are the `|` that do not follow a backslash.
A `|` inside a cell is written after a backslash. What stands before the first delimiter or
after the last one is no cell.
-/
import FeatureDoc.Text.Blank

namespace FeatureDoc.Line

/-- The pieces of a line between its delimiters; the flag tells whether a backslash stands
right before the text. -/
def splitRow : Bool → Text → List Text
  | _, [] => [[]]
  | escaped, c :: rest =>
    if c = '|' ∧ ¬escaped then [] :: splitRow false rest
    else match splitRow (c = '\\') rest with
      | [] => [[c]]
      | piece :: more => (c :: piece) :: more

/-- A text with every `|` that follows a backslash freed from it. -/
def unescapePipes : Text → Text
  | [] => []
  | '\\' :: '|' :: rest => '|' :: unescapePipes rest
  | c :: rest => c :: unescapePipes rest

/-- The cells of a row, without surrounding blanks. -/
def splitCells (line : Text) : List Text :=
  (splitRow false line).tail.dropLast.map fun piece => Text.trim (unescapePipes piece)

/-! ## Writing rows -/

/-- A cell with a backslash before every `|`. -/
def escapePipes (cell : Text) : Text :=
  cell.flatMap fun c => if c = '|' then ['\\', '|'] else [c]

/-- A row of cells as a line of a table. -/
def writeRow (cells : List Text) : Text :=
  "| " ++ Pieces.joined " | " (cells.map escapePipes) ++ " |"

end FeatureDoc.Line
