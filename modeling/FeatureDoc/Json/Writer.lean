/-
# Written forms of JSON documents

A document is written in one line without blanks, or with every item on a line of its own and
two blanks of indent for each level. A third form shows the structure for diagnostics.
-/
import FeatureDoc.Json.Basic
import FeatureDoc.Decimal.Style
import FeatureDoc.Text.Quoted

namespace FeatureDoc.Json

/-! ## Numbers and strings -/

/-- A number; whole double-precision numbers keep a point. -/
def writeNumber : Number → Text
  | .integer n => Text.ofInt n
  | .double x => Decimal.write .json x

/-- A hexadecimal number with at least four digits. -/
def hex4 (n : Nat) : Text :=
  let digits := Nat.toDigits 16 n
  List.replicate (4 - digits.length) '0' ++ digits

/-- The written form of a character inside a string: quotes, backslashes and control characters
are escaped and nothing else is. -/
def writeChar (c : Char) : Text :=
  match c with
  | '"' => ['\\', '"']
  | '\\' => ['\\', '\\']
  | '\x08' => ['\\', 'b']
  | '\x0c' => ['\\', 'f']
  | '\n' => ['\\', 'n']
  | '\r' => ['\\', 'r']
  | '\t' => ['\\', 't']
  | _ => if c.toNat < 32 then ['\\', 'u'] ++ hex4 c.toNat else [c]

/-- A string in double quotes. -/
def writeString (t : Text) : Text := '"' :: t.flatMap writeChar ++ ['"']

/-- A truth value. -/
def writeBool (b : Bool) : Text := if b then "true" else "false"

/-! ## The form in one line -/

mutual

/-- A document without blanks. -/
def write : Json → Text
  | .null => "null"
  | .bool b => writeBool b
  | .number n => writeNumber n
  | .string t => writeString t
  | .array items => '[' :: writeItems items ++ [']']
  | .object fields => '{' :: writeFields fields ++ ['}']

/-- The items of an array, separated by commas. -/
def writeItems : List Json → Text
  | [] => []
  | [item] => write item
  | item :: rest => write item ++ ',' :: writeItems rest

/-- The fields of an object, separated by commas. -/
def writeFields : List (Text × Json) → Text
  | [] => []
  | [(name, value)] => writeString name ++ ':' :: write value
  | (name, value) :: rest => writeString name ++ ':' :: write value ++ ',' :: writeFields rest

end

/-! ## The form with indents -/

/-- A line feed and the indent of a level. -/
def newLine (level : Nat) : Text := '\n' :: List.replicate (2 * level) ' '

mutual

/-- A document whose items stand on lines of their own; empty arrays and objects stay closed. -/
def writePretty (level : Nat) : Json → Text
  | .array [] => "[]"
  | .array (item :: items) =>
    '[' :: prettyItems (level + 1) (item :: items) ++ newLine level ++ [']']
  | .object [] => ['{', '}']
  | .object (field :: fields) =>
    '{' :: prettyFields (level + 1) (field :: fields) ++ newLine level ++ ['}']
  | .null => "null"
  | .bool b => writeBool b
  | .number n => writeNumber n
  | .string t => writeString t

/-- The items of an array, each on a line of its own. -/
def prettyItems (level : Nat) : List Json → Text
  | [] => []
  | [item] => newLine level ++ writePretty level item
  | item :: rest => newLine level ++ writePretty level item ++ ',' :: prettyItems level rest

/-- The fields of an object, each on a line of its own. -/
def prettyFields (level : Nat) : List (Text × Json) → Text
  | [] => []
  | [(name, value)] => newLine level ++ writeString name ++ ": " ++ writePretty level value
  | (name, value) :: rest =>
    newLine level ++ writeString name ++ ": " ++ writePretty level value ++
      ',' :: prettyFields level rest

end

/-- An item that is not the last one has a comma behind it. -/
theorem prettyItems_cons_cons (level : Nat) (item next : Json) (rest : List Json) :
    prettyItems level (item :: next :: rest) =
      newLine level ++ writePretty level item ++ ',' :: prettyItems level (next :: rest) := by
  rw [prettyItems]
  exact List.cons_ne_nil _ _

/-- A field that is not the last one has a comma behind it. -/
theorem prettyFields_cons_cons (level : Nat) (name : Text) (value : Json) (next : Text × Json)
    (rest : List (Text × Json)) : prettyFields level ((name, value) :: next :: rest) =
      newLine level ++ writeString name ++ ": " ++ writePretty level value ++
        ',' :: prettyFields level (next :: rest) := by
  rw [prettyFields]
  exact fun h => List.cons_ne_nil _ _ h

/-- A document with indents, from the outermost level. -/
def pretty (doc : Json) : Text := writePretty 0 doc

/-! ## The form for diagnostics -/

mutual

/-- The structure of a document, with the kind of every node. -/
def inspect : Json → Text
  | .null => "Null"
  | .bool b => "Bool(" ++ writeBool b ++ ")"
  | .number n => "Number(" ++ writeNumber n ++ ")"
  | .string t => "String(" ++ Text.quoted t ++ ")"
  | .array items => "Array [" ++ inspectItems items ++ "]"
  | .object fields => "Object ".toList ++ '{' :: inspectFields fields ++ ['}']

/-- The items of an array, separated by commas and blanks. -/
def inspectItems : List Json → Text
  | [] => []
  | [item] => inspect item
  | item :: rest => inspect item ++ ", " ++ inspectItems rest

/-- The fields of an object, separated by commas and blanks. -/
def inspectFields : List (Text × Json) → Text
  | [] => []
  | [(name, value)] => Text.quoted name ++ ": " ++ inspect value
  | (name, value) :: rest => Text.quoted name ++ ": " ++ inspect value ++ ", " ++ inspectFields rest

end

end FeatureDoc.Json
