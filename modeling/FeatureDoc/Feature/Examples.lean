/-
# Example blocks

An example block is a table of texts. Its header names the columns; a horizontal block has one
line for each row, and a vertical one a line for each column.
-/
import FeatureDoc.Text.Basic

namespace FeatureDoc

/-- How the lines of an example block are to be read. -/
inductive Orientation where
  /-- A line is a row; the first one names the columns. -/
  | horizontal
  /-- A line is a column, with its name in the first cell. -/
  | vertical
deriving DecidableEq, Repr

/-- The name of an orientation in small letters. -/
def Orientation.word : Orientation → Text
  | horizontal => "horizontal"
  | vertical => "vertical"

/-- A table of examples. -/
structure ExampleBlock where
  /-- How its lines are to be read. -/
  orientation : Orientation
  /-- The number of the line that opens it. -/
  line : Nat
  /-- The names of its columns. -/
  names : List Text
  /-- The cells of its lines, without the names. -/
  values : List (List Text)
deriving DecidableEq, Repr

namespace ExampleBlock

/-- A block that has just been opened. -/
def opened (orientation : Orientation) (line : Nat) : ExampleBlock :=
  { orientation, line, names := [], values := [] }

/-- Whether the block has no line of cells. -/
def isEmpty (b : ExampleBlock) : Bool := b.values.isEmpty

/-- The rows across columns, as many as the first column has cells. -/
def transpose (columns : List (List Text)) : List (List Text) :=
  match columns with
  | [] => []
  | first :: _ => (List.range first.length).map fun i => columns.filterMap fun column => column[i]?

/-- The rows of the block, in either orientation. -/
def rows (b : ExampleBlock) : List (List Text) :=
  match b.orientation with
  | .horizontal => b.values
  | .vertical => transpose b.values

end ExampleBlock

end FeatureDoc
