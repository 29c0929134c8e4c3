/-
# Tag lines

A tag line holds tags that each begin with `@`; a tag ends where a blank and an `@` follow.
-/
import FeatureDoc.Text.Blank

namespace FeatureDoc.Line

/-- The pieces of a line between the places where a blank is followed by `@`. -/
def splitTags : Text → List Text
  | [] => [[]]
  | ' ' :: '@' :: rest => [] :: splitTags rest
  | c :: rest =>
    match splitTags rest with
    | [] => [[c]]
    | piece :: more => (c :: piece) :: more

/-- The name of the tag in one piece of a tag line. -/
def tagName (piece : Text) : Text := Text.trim (piece.dropWhile (· = '@'))

/-- The tags of a line in increasing order, each once; empty names are none. -/
def parseTags (line : Text) : List Text :=
  Text.sortedSet (((splitTags line).map tagName).filter (· ≠ []))

end FeatureDoc.Line
