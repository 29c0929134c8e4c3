/-
# Letters, digits and words

A word is a run of letters, numbers and underscores, where letters are the characters with the
Unicode property `Alphabetic` and numbers those of a general category `N`.
-/
import FeatureDoc.Text.Basic
import FeatureDoc.Text.Alphabetic
import FeatureDoc.Text.Numeric

namespace FeatureDoc.Text

/-- Whether a character is alphabetic. -/
def isLetter (c : Char) : Bool :=
  if c.toNat < 128 then c.isAlpha else alphabeticRanges.contains c.toNat

/-- Whether a character is a number of any kind: a digit, a numeral letter, a fraction. -/
def isNumeric (c : Char) : Bool :=
  if c.toNat < 128 then c.isDigit else numericRanges.contains c.toNat

/-- Whether a character is a decimal digit of some script. -/
def isDecimalDigit (c : Char) : Bool :=
  if c.toNat < 128 then c.isDigit else decimalDigitRanges.contains c.toNat

/-- Whether a character may stand in a word. -/
def isWord (c : Char) : Bool := isLetter c || isNumeric c || c = '_'

/-- A name starts with a letter or an underscore and goes on with word characters. -/
def isName : Text → Bool
  | [] => false
  | c :: rest => (isLetter c || c = '_') && rest.all isWord

end FeatureDoc.Text
