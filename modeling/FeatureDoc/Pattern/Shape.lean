/-
# Shapes of captured texts

The hint of a placeholder decides which texts it can capture. A shape lists the ways to split a
text into a captured beginning and the rest, in the order in which they are tried: repetitions
take as much as they can first, unless they are lazy, and alternatives are tried as written.
-/
import FeatureDoc.Text.Word
import FeatureDoc.Text.Blank

namespace FeatureDoc.Pattern

/-! ## Ways to split a text -/

/-- The ways to split a text into a beginning and the rest, in order of preference. -/
abbrev Splitter := Text → List (Text × Text)

namespace Splitter

/-- One character of a class. -/
def one (p : Char → Bool) : Splitter
  | [] => []
  | c :: rest => if p c then [([c], rest)] else []

/-- At least one character of a class, as few as possible first. -/
def lazyRun (p : Char → Bool) : Splitter
  | [] => []
  | c :: rest =>
    if p c then ([c], rest) :: (lazyRun p rest).map fun (a, b) => (c :: a, b) else []

/-- At least one character of a class, as many as possible first. -/
def run (p : Char → Bool) : Splitter := fun t => (lazyRun p t).reverse

/-- One splitter after the other. -/
def andThen (f g : Splitter) : Splitter := fun t =>
  (f t).flatMap fun (a, rest) => (g rest).map fun (b, rest) => (a ++ b, rest)

/-- The ways of the first splitter, then those of the second. -/
def orElse (f g : Splitter) : Splitter := fun t => f t ++ g t

/-- The ways of a splitter, then the empty beginning. -/
def orNothing (f : Splitter) : Splitter := fun t => f t ++ [([], t)]

/-- A word of small ASCII letters, in any case. -/
def wordAnyCase : Text → Splitter
  | [] => fun t => [([], t)]
  | c :: word => andThen (one fun d => d.toLower = c) (wordAnyCase word)

end Splitter

open Splitter

/-! ## The shapes -/

/-- What a placeholder can capture. -/
inductive Shape where
  /-- Decimal digits of any script, with an optional sign. -/
  | signedDigits
  /-- Decimal digits of any script. -/
  | digits
  /-- A number with an optional point and exponent, or a name for an infinity or for what is no
  number. -/
  | number
  /-- Characters that are no blanks, as many as possible. -/
  | word
  /-- Characters of one line, as few as possible. -/
  | line
deriving DecidableEq, Repr

/-- Whether a character is a sign. -/
def isSign (c : Char) : Bool := c = '+' || c = '-'

/-- At least one decimal digit. -/
def digitRun : Splitter := run Text.isDecimalDigit

/-- A point. -/
def point : Splitter := one (· = '.')

/-- The digits of a number: with a point after or before the first digits, or without one. -/
def mantissa : Splitter :=
  orElse (andThen digitRun (andThen point (orNothing digitRun)))
    (orElse (andThen point digitRun) digitRun)

/-- The exponent of a number, with its `e`. -/
def exponent : Splitter :=
  andThen (one fun c => c = 'e' || c = 'E') (andThen (orNothing (one isSign)) digitRun)

/-- The ways in which a shape can take up the beginning of a text. -/
def Shape.splits : Shape → Splitter
  | signedDigits => andThen (orNothing (one isSign)) digitRun
  | digits => digitRun
  | number =>
    orElse (andThen (orNothing (one isSign)) (andThen mantissa (orNothing exponent)))
      (orElse (wordAnyCase "nan") (orElse (wordAnyCase "inf") (wordAnyCase "infinity")))
  | word => run fun c => !Text.isBlank c
  | line => lazyRun (· ≠ '\n')

/-! ## Hints -/

/-- Hints of one meaning. -/
structure HintEntry where
  /-- The hints as they are written. -/
  names : List Text
  /-- What can be captured. -/
  shape : Shape
  /-- The conversion code that is applied to what is captured. -/
  code : Option Char

/-- All hints. -/
def hintTable : List HintEntry := [
  ⟨["i8", "i16", "i32", "i64", "isize", "int"], .signedDigits, some 'i'⟩,
  ⟨["u8", "u16", "u32", "u64", "usize"], .digits, some 'i'⟩,
  ⟨["f32", "f64", "float"], .number, some 'f'⟩,
  ⟨["word"], .word, none⟩,
  ⟨["string", "String"], .line, none⟩]

/-- All hints as they are written, in the order of the table. -/
def hintNames : List Text := hintTable.flatMap HintEntry.names

/-- The entry of a hint. -/
def hint? (name : Text) : Option HintEntry := hintTable.find? fun entry => name ∈ entry.names

end FeatureDoc.Pattern
