/-
# Blank characters

Blanks are the characters with the Unicode property `White_Space`. Lines are trimmed of them,
and the number of blanks at the beginning of a line is its indent.
-/
import FeatureDoc.Text.Basic

namespace FeatureDoc.Text

/-- Whether a character has the Unicode property `White_Space`. -/
def isBlank (c : Char) : Bool :=
  let n := c.toNat
  (9 ≤ n && n ≤ 13) || n = 0x20 || n = 0x85 || n = 0xA0 || n = 0x1680 ||
    (0x2000 ≤ n && n ≤ 0x200A) || n = 0x2028 || n = 0x2029 || n = 0x202F || n = 0x205F ||
    n = 0x3000

/-- A text without the blanks at its beginning. -/
def trimStart (t : Text) : Text := t.dropWhile isBlank

/-- A text without the blanks at its end. -/
def trimEnd (t : Text) : Text := (t.reverse.dropWhile isBlank).reverse

/-- A text without the blanks at its beginning and its end. -/
def trim (t : Text) : Text := trimEnd (trimStart t)

/-- The blanks at the beginning of a text. -/
def leadingBlanks (t : Text) : Text := t.takeWhile isBlank

/-- The number of blanks at the beginning of a text, counted in characters. -/
def indentWidth (t : Text) : Nat := (leadingBlanks t).length

/-- Whether a text holds nothing but blanks. -/
def isBlankLine (t : Text) : Bool := t.all isBlank

end FeatureDoc.Text
