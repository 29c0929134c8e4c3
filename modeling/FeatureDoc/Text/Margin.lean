/-
# The common margin of lines

The margin of a list of lines is the longest run of blanks with which every line begins that
does not consist of blanks only. Taking the margin off leaves the inner indents as they are.
-/
import FeatureDoc.Text.Blank

namespace FeatureDoc.Text

/-- The longest common beginning of two texts. -/
def commonLead : Text → Text → Text
  | a :: s, b :: t => if a = b then a :: commonLead s t else []
  | _, _ => []

/-- The longest common beginning of the leading blanks of all lines but the blank ones. -/
def margin (ls : List Text) : Text :=
  match (ls.filter fun l => !isBlankLine l).map leadingBlanks with
  | [] => []
  | first :: more => more.foldl commonLead first

/-- A line without the margin; a blank line becomes empty. -/
def dropMargin (m : Text) (line : Text) : Text :=
  if isBlankLine line then [] else (after? m line).getD line

/-- The lines of a text without their margin, put together again. -/
def dedent (t : Text) : Text :=
  let ls := lines t
  unlines (ls.map (dropMargin (margin ls)))

end FeatureDoc.Text
