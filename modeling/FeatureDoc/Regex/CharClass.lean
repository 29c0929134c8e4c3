/-
# Classes of characters in regular expressions

A class is a set of characters. Flags decide whether characters that differ only in case belong
together, and whether digits, blanks and word characters are those of all scripts or of ASCII.
-/
import FeatureDoc.Text.Blank
import FeatureDoc.Text.CaseFold
import FeatureDoc.Text.Combining
import FeatureDoc.Text.Word

namespace FeatureDoc.Regex

/-- A set of characters. -/
abbrev CharClass := Char → Bool

/-- What the flags of an expression say. -/
structure Flags where
  /-- `i`: characters that differ only in case are the same. -/
  anyCase : Bool := false
  /-- `m`: the ends of lines count as ends of the text. -/
  byLine : Bool := false
  /-- `s`: a dot stands for a line feed too. -/
  dotAll : Bool := false
  /-- `R`: a carriage return ends a line too. -/
  returns : Bool := false
  /-- `x`: blanks and comments in the expression mean nothing. -/
  spaced : Bool := false
  /-- `u`: classes are those of all scripts. -/
  unicode : Bool := true

namespace CharClass

/-- The characters that differ only in case from one of a class. -/
def anyCase (unicode : Bool) (p : CharClass) : CharClass := fun c =>
  if unicode then (Text.caseVariants c).any p else p c || p c.toLower || p c.toUpper

/-- A class under flags. -/
def under (p : CharClass) (f : Flags) : CharClass := if f.anyCase then p.anyCase f.unicode else p

/-- The characters from one to another. -/
def range (first last : Char) : CharClass := fun c => first ≤ c && c ≤ last

/-- The characters outside a class. -/
def compl (p : CharClass) : CharClass := fun c => !p c

/-! ## Named classes -/

/-- Word characters that are neither alphabetic nor combining characters nor digits: marks,
connectors and joiners. -/
def otherWordRanges : Text.Ranges := [
  (0x5F, 0x5F), (0xF3E, 0xF3F), (0x1CE1, 0x1CE1), (0x1CF7, 0x1CF7), (0x200D, 0x200D),
  (0x203F, 0x2040), (0x2054, 0x2054), (0xABEC, 0xABEC), (0xFE33, 0xFE34), (0xFE4D, 0xFE4F),
  (0xFF3F, 0xFF3F), (0x1D166, 0x1D166), (0x1D16D, 0x1D16D)]

/-- Word characters of all scripts: letters, marks, decimal digits, connectors and joiners, but no
tags. -/
def unicodeWord : CharClass := fun c =>
  Text.isLetter c || Text.isDecimalDigit c || otherWordRanges.contains c.toNat ||
    (Text.combiningRanges.contains c.toNat && !(0xE0020 ≤ c.toNat && c.toNat ≤ 0xE007F))

/-- Word characters of ASCII. -/
def asciiWord : CharClass := fun c => c.isAlphanum || c = '_'

/-- Blanks of ASCII. -/
def asciiSpace : CharClass := fun c => c = ' ' || (9 ≤ c.toNat && c.toNat ≤ 13)

/-- Word characters. -/
def word (unicode : Bool) : CharClass := if unicode then unicodeWord else asciiWord

/-- Digits. -/
def digit (unicode : Bool) : CharClass := if unicode then Text.isDecimalDigit else Char.isDigit

/-- Blanks. -/
def space (unicode : Bool) : CharClass := if unicode then Text.isBlank else asciiSpace

/-- Whether a character is a punctuation mark or a symbol of ASCII. -/
def asciiPunct : CharClass := fun c => 33 ≤ c.toNat && c.toNat ≤ 126 && !c.isAlphanum

/-- The classes of ASCII by their names. -/
def asciiClasses : List (String × CharClass) := [
  ("alnum", Char.isAlphanum), ("alpha", Char.isAlpha), ("ascii", fun c => c.toNat < 128),
  ("blank", fun c => c = ' ' || c = '\t'),
  ("cntrl", fun c => c.toNat < 32 || c.toNat = 127), ("digit", Char.isDigit),
  ("graph", fun c => 33 ≤ c.toNat && c.toNat ≤ 126), ("lower", Char.isLower),
  ("print", fun c => 32 ≤ c.toNat && c.toNat ≤ 126), ("punct", asciiPunct),
  ("space", asciiSpace), ("upper", Char.isUpper), ("word", asciiWord),
  ("xdigit", fun c => c.isDigit || ('a' ≤ c.toLower && c.toLower ≤ 'f'))]

/-- The class of ASCII of a name. -/
def ofAsciiName? (name : Text) : Option CharClass := asciiClasses.lookup (String.ofList name)

/-- The properties of characters by their names in small letters, without separators. -/
def properties : List (String × CharClass) := [
  ("any", fun _ => true), ("ascii", fun c => c.toNat < 128),
  ("alphabetic", Text.isLetter), ("alpha", Text.isLetter),
  ("whitespace", Text.isBlank), ("wspace", Text.isBlank), ("space", Text.isBlank),
  ("n", Text.isNumeric), ("number", Text.isNumeric),
  ("nd", Text.isDecimalDigit), ("decimalnumber", Text.isDecimalDigit),
  ("digit", Text.isDecimalDigit)]

/-- The characters with a property, whose name may be written in any case and with separators. -/
def ofProperty? (name : Text) : Option CharClass :=
  properties.lookup (String.ofList ((Text.lowerAscii name).filter Char.isAlphanum))

/-! ## Dots -/

/-- What a dot stands for. -/
def dot (f : Flags) : CharClass := fun c =>
  f.dotAll || (c ≠ '\n' && !(f.returns && c = '\r'))

end CharClass

end FeatureDoc.Regex
