/-
# Quoted texts

A text is quoted for messages: it stands between double quotes, and every character that would
break the quote or could not be seen is written as an escape.
-/
import FeatureDoc.Text.Basic
import FeatureDoc.Text.Printable
import FeatureDoc.Text.Combining

namespace FeatureDoc.Text

/-- Whether a character is shown as itself: it is printable and does not attach to the one
before it. -/
def isShown (c : Char) : Bool :=
  if c.toNat < 128 then 32 ≤ c.toNat && c.toNat < 127
  else printableRanges.contains c.toNat && !combiningRanges.contains c.toNat

/-- The written form of a character inside a quoted text. -/
def quotedChar (c : Char) : Text :=
  match c with
  | '\x00' => ['\\', '0']
  | '\t' => ['\\', 't']
  | '\r' => ['\\', 'r']
  | '\n' => ['\\', 'n']
  | '"' => ['\\', '"']
  | '\\' => ['\\', '\\']
  | _ =>
    if isShown c then [c]
    else ['\\', 'u', '\x7b'] ++ Nat.toDigits 16 c.toNat ++ ['\x7d']

/-- A text in double quotes. -/
def quoted (t : Text) : Text := '"' :: t.flatMap quotedChar ++ ['"']

/-- Several quoted texts between brackets, separated by commas. -/
def quotedList (ts : List Text) : Text := '[' :: Pieces.joined ", " (ts.map quoted) ++ [']']

end FeatureDoc.Text
