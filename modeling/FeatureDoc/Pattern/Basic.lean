/-
# Step patterns

A pattern is a list of literals and placeholders. It matches a text that consists of its
literals with texts of the right shapes between them; of several ways to match, the one that
prefers the earlier choices of the earlier placeholders counts. When several patterns match, the
most specific one is wanted.
-/
import FeatureDoc.Pattern.Piece
import FeatureDoc.Pattern.Shape
import FeatureDoc.Code.Basic

namespace FeatureDoc

/-- A placeholder of a pattern. -/
structure Pattern.Placeholder where
  /-- The name to which the captured value is bound. -/
  name : Text
  /-- The hint as it is written. -/
  hint : Option Text
  /-- What can be captured. -/
  shape : Pattern.Shape
  /-- The conversion code for what is captured. -/
  code : Option Char

/-- A part of a pattern. -/
inductive Pattern.Part where
  | literal (t : Text)
  | hole (p : Pattern.Placeholder)

/-- A pattern for the texts of steps. -/
structure Pattern where
  /-- The pattern as it is written. -/
  text : Text
  /-- Its literals and placeholders. -/
  parts : List Pattern.Part

namespace Pattern

/-! ## From the written form -/

/-- The placeholder with a name and a hint; without a hint it captures any text of one line. -/
def placeholderOf (name : Text) : Option Text → Except Error Placeholder
  | none => .ok { name, hint := none, shape := .line, code := none }
  | some hint =>
    match hint? hint with
    | some entry => .ok { name, hint := some hint, shape := entry.shape, code := entry.code }
    | none => .error (.unknownHint name hint)

/-- The parts that pieces stand for, given the names that have been used before them. -/
def partsOf : List Text → List Piece → Except Error (List Part)
  | _, [] => .ok []
  | used, .literal t :: rest => (partsOf used rest).map (.literal t :: ·)
  | used, .placeholder name hint :: rest =>
    if name ∈ used then .error (.duplicateName name)
    else match placeholderOf name hint with
      | .error e => .error e
      | .ok p => (partsOf (name :: used) rest).map (.hole p :: ·)

/-- Reads a pattern. -/
def compile (t : Text) : Except Error Pattern := do
  return { text := t, parts := ← partsOf [] (← pieces t) }

/-- The placeholder that a part is. -/
def Part.placeholder? : Part → Option Placeholder
  | literal _ => none
  | hole p => some p

/-- The placeholders of a pattern from left to right. -/
def placeholders (p : Pattern) : List Placeholder := p.parts.filterMap Part.placeholder?

/-! ## Specificity -/

/-- How specific a pattern is. -/
structure Specificity where
  /-- The number of literal characters. -/
  literalChars : Nat
  /-- The number of placeholders. -/
  placeholders : Nat
  /-- The number of placeholders with a hint. -/
  typed : Nat
deriving DecidableEq, Repr

/-- More literal characters are more specific, then fewer placeholders, then more hints. -/
def Specificity.compare (a b : Specificity) : Ordering :=
  (Ord.compare a.literalChars b.literalChars).then <|
    (Ord.compare b.placeholders a.placeholders).then (Ord.compare a.typed b.typed)

/-- The number of literal characters of parts. -/
def literalChars : List Part → Nat
  | [] => 0
  | .literal t :: parts => t.length + literalChars parts
  | .hole _ :: parts => literalChars parts

/-- The specificity of a pattern. -/
def specificity (p : Pattern) : Specificity where
  literalChars := literalChars p.parts
  placeholders := p.placeholders.length
  typed := (p.placeholders.filter fun h => h.hint.isSome).length

/-! ## Matching -/

/-- The texts captured by the placeholders among some parts that match a whole text. -/
def matchParts : List Part → Text → Option (List Text)
  | [], t => if t = [] then some [] else none
  | .literal l :: parts, t => (Text.after? l t).bind (matchParts parts)
  | .hole p :: parts, t =>
    (p.shape.splits t).findSome? fun (raw, rest) => (matchParts parts rest).map (raw :: ·)

/-- A text captured by a placeholder. -/
structure Capture where
  /-- The name of the placeholder. -/
  name : Text
  /-- The captured text. -/
  raw : Text
  /-- The conversion code of the placeholder. -/
  code : Option Char
deriving DecidableEq, Repr

/-- The value of a captured text. -/
def Capture.value (c : Capture) : Except ConversionError Value :=
  match c.code with
  | some code => Code.apply code (.text c.raw)
  | none => .ok (.text c.raw)

/-- What the placeholders capture of a text that the pattern matches, from left to right. -/
def captures (p : Pattern) (t : Text) : Option (List Capture) :=
  (matchParts p.parts t).map fun raws =>
    p.placeholders.zipWith (fun h raw => { name := h.name, raw, code := h.code }) raws

end Pattern

end FeatureDoc
