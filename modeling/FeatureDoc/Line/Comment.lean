/-
# Comments

A `#` that begins a line or follows a blank starts a comment, which runs to the end of the line.
-/
import FeatureDoc.Text.Blank

namespace FeatureDoc.Line

/-- The part of a text before its first comment; the flag tells whether a `#` here would start
one. -/
def beforeComment : Bool → Text → Text
  | _, [] => []
  | opens, c :: rest =>
    if c = '#' ∧ opens then [] else c :: beforeComment (Text.isBlank c) rest

/-- A line without its comment and without the blanks around what remains. -/
def stripComment (line : Text) : Text := Text.trim (beforeComment true line)

end FeatureDoc.Line
