/-
# Notes as lines

A note is shown as a line: its level, the part of the program that it comes from, and what it
says. Control characters that a terminal would act on are shown as escapes; a note that has line
feeds of its own takes several lines.
-/
import FeatureDoc.Journal

namespace FeatureDoc

/-- The part of the program that makes notes of a topic. -/
def Topic.source : Topic → Text
  | reading => "bdd_outline::parser::builder"
  | storing => "bdd_outline::cache"
  | registering => "bdd_outline::registry"
  | resolving => "bdd_outline::resolver"
  | running => "bdd_outline::execution"
  | discovering => "cargo_outline::discovery"
  | commanding => "cargo_outline::cli"
  | program => "cargo_outline"

namespace Note

/-- The control characters of ASCII that are shown as escapes, with these. -/
def controlEscapes : List (Char × Text) := [
  ('\x1b', "\\x1b"), ('\x07', "\\x07"), ('\x08', "\\x08"), ('\x0c', "\\x0c"), ('\x7f', "\\x7f")]

/-- A character as a line shows it. -/
def shownChar (c : Char) : Text :=
  match controlEscapes.lookup c with
  | some escape => escape
  | none =>
    if 0x80 ≤ c.toNat ∧ c.toNat ≤ 0x9F then
      ['\\', 'u', '\x7b'] ++ Nat.toDigits 16 c.toNat ++ ['\x7d']
    else [c]

/-- The text that shows a note. -/
def line (n : Note) : Text :=
  n.level.banner ++ ' ' :: n.topic.source ++ ": " ++ n.message.flatMap shownChar

end Note

namespace Journal

/-- The lines that show the notes which matter at least as much as the given level. -/
def shownLines (j : Journal) (level : Level) : List Text :=
  (j.atLeast level).flatMap fun n => Text.lines n.line

end Journal

end FeatureDoc
