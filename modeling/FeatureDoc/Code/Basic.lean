/-
# Conversion codes

A conversion code is a single character. Most codes convert a value into another one; `S` says
that an argument is left out, and `A` that it is an alias for another name. The table below is
the only place that gives characters a meaning.
-/
import FeatureDoc.Value.Writer
import FeatureDoc.Json.Reader
import FeatureDoc.Text.Blank

namespace FeatureDoc

/-- Why a conversion code could not be applied. -/
inductive ConversionError where
  /-- No code has this character. -/
  | unknownCode (code : Char)
  /-- The code exists but converts nothing. -/
  | notConverting (code : Char)
  /-- The input has not the form that the code reads. -/
  | invalid (code : Char) (input : Text) (reason : Text)
  /-- The input is an integer beyond 64 bits. -/
  | outOfRange (code : Char) (input : Text)
deriving DecidableEq

/-- What is said about a code that could not be applied. -/
def ConversionError.message : ConversionError → Text
  | unknownCode code => "unknown conversion code `" ++ [code] ++ "`"
  | notConverting code => "conversion code `" ++ [code] ++ "` does not transform values"
  | invalid code input reason =>
    "cannot convert `" ++ input ++ "` with code `" ++ [code] ++ "`: " ++ reason
  | outOfRange code input =>
    "`" ++ input ++ "` does not fit a 64-bit integer (code `" ++ [code] ++ "`)"

namespace Code

/-! ## Conversions of a single value -/

/-- The fault of a value that is no text, where only a text can be read. -/
def expectedText (code : Char) (v : Value) : ConversionError :=
  .invalid code v.display "expected text"

/-- The digits that stand for an integer in a text: without blanks around and without
underscores. -/
def integerDigits (t : Text) : Text := Text.without '_' (Text.trim t)

/-- To an integer: truth values count as one and zero, texts are read. -/
def toInt : Value → Except ConversionError Value
  | .int n => .ok (.int n)
  | .bool b => .ok (.int (if b then 1 else 0))
  | .text t =>
    match Decimal.readInteger (integerDigits t) with
    | .ok n => .ok (.int n)
    | .error .outOfRange => .error (.outOfRange 'i' t)
    | .error fault => .error (.invalid 'i' t fault.message)
  | v => .error (expectedText 'i' v)

/-- To a number in double precision: integers are rounded, texts are read. -/
def toDouble : Value → Except ConversionError Value
  | .double x => .ok (.double x)
  | .int n => .ok (.double (Double.ofInt n.toInt))
  | .text t =>
    match Decimal.readNumber (Text.trim t) with
    | .ok x => .ok (.double x)
    | .error fault => .error (.invalid 'f' t fault.message)
  | v => .error (expectedText 'f' v)

/-- The truth value of a text: the words `true` and `false` in any case, integers by whether they
are zero, and any other text by whether it is empty. No letter outside ASCII has a letter of the
two words as its small form, so that only capital letters of ASCII matter. -/
def textTruth (t : Text) : Bool :=
  let small := Text.lowerAscii t
  if small = "true".toList then true
  else if small = "false".toList then false
  else match Decimal.readInteger (Text.trim small) with
    | .ok n => n != 0
    | .error _ => !small.isEmpty

/-- To a truth value. -/
def toBool : Value → Except ConversionError Value
  | .text t => .ok (.bool (textTruth t))
  | v => .ok (.bool v.truthy)

/-- To the list of the pieces of a text between commas, without blanks around them. -/
def toList : Value → Except ConversionError Value
  | .text t => .ok (.list ((Pieces.splitOn ',' t).map fun piece => .text (Text.trim piece)))
  | v => .error (expectedText 'l' v)

/-- To a JSON document. -/
def toJson : Value → Except ConversionError Value
  | .text t =>
    match Json.read t with
    | .ok doc => .ok (.json doc)
    | .error e => .error (.invalid 'j' t e.message)
  | v => .error (expectedText 'j' v)

/-! ## The table of codes -/

/-- What a code does. -/
inductive Action where
  /-- It converts a single value. -/
  | convert (f : Value → Except ConversionError Value)
  /-- It says that an argument is left out. -/
  | skip
  /-- It says that an argument is an alias. -/
  | reference

/-- The word for an action. -/
def Action.word : Action → Text
  | convert _ => "convert"
  | skip => "skip"
  | reference => "alias"

/-- An entry of the table of codes. -/
structure Entry where
  /-- The character of the code. -/
  code : Char
  /-- What the code does. -/
  action : Action
  /-- The same in a few words. -/
  summary : Text

/-- All codes. -/
def table : List Entry := [
  ⟨'i', .convert toInt, "64-bit integer"⟩,
  ⟨'f', .convert toDouble, "floating point"⟩,
  ⟨'I', .convert toInt, "64-bit integer"⟩,
  ⟨'d', .convert toDouble, "floating point"⟩,
  ⟨'b', .convert toBool, "boolean"⟩,
  ⟨'N', .convert fun _ => .ok .null, "null"⟩,
  ⟨'E', .convert fun _ => .ok (.text []), "empty string"⟩,
  ⟨'S', .skip, "skip, use the step default"⟩,
  ⟨'A', .reference, "alias to another value"⟩,
  ⟨'l', .convert toList, "comma separated list"⟩,
  ⟨'j', .convert toJson, "JSON document"⟩]

/-- The action of a code. -/
def action? (code : Char) : Option Action :=
  (table.find? fun entry => entry.code = code).map Entry.action

/-- The characters of all codes, in the order of the table. -/
def characters : List Char := table.map Entry.code

/-- Whether a character is a code. -/
def isCode (code : Char) : Bool := (action? code).isSome

/-- The conversion of a single value by a code. -/
def conversion (code : Char) : Except ConversionError (Value → Except ConversionError Value) :=
  match action? code with
  | none => .error (.unknownCode code)
  | some (.convert f) => .ok f
  | some _ => .error (.notConverting code)

/-! ## Applying codes -/

/-- Converts the items of a list one after the other; the first that fails decides. -/
def convertItems (f : Value → Except ConversionError Value) :
    List Value → Except ConversionError (List Value)
  | [] => .ok []
  | item :: rest => do return (← f item) :: (← convertItems f rest)

/-- A conversion applied to a value: to each item of a list, and to any other value itself. -/
def convertEach (f : Value → Except ConversionError Value) :
    Value → Except ConversionError Value
  | .list items => (convertItems f items).map .list
  | v => f v

/-- A value after one code. -/
def apply (code : Char) (v : Value) : Except ConversionError Value := do
  convertEach (← conversion code) v

/-- A value after a run of codes, from left to right. -/
def applyAll : Text → Value → Except ConversionError Value
  | [], v => .ok v
  | code :: codes, v => do applyAll codes (← apply code v)

end Code

end FeatureDoc
