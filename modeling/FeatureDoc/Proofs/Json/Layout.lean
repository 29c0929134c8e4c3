/-
# Lines of JSON documents

A document with indents consists of lines. Brackets stand on lines of their own around the lines of
what they hold, which have two blanks more before them, and a comma ends each item but the last.
The lines of a document are here given without levels: what is inside it is laid out as it would
be alone.

* `Json.newLine_writePretty` : at each level a document is written as its lines with the indent of
  the level;
* `Json.endLine_pretty` : a document is written as its lines.
-/
import FeatureDoc.Command.Output
import FeatureDoc.Proofs.Text.Phrase

namespace FeatureDoc.Json

/-! ## Lines -/

/-- Lines with a comma behind the last of them. -/
def addComma : List Text → List Text
  | [] => []
  | [l] => [l ++ [',']]
  | l :: ls => l :: addComma ls

/-- The lines of items one below the other, with a comma behind each item but the last. -/
def listed : List (List Text) → List Text
  | [] => []
  | [item] => item
  | item :: rest => addComma item ++ listed rest

/-- Lines with the name of a field before the first of them. -/
def labelled (name : Text) : List Text → List Text
  | [] => []
  | l :: ls => (writeString name ++ ": " ++ l) :: ls

/-- The lines of items between brackets. -/
def enclosed (opening closing : Char) : List (List Text) → List Text
  | [] => [[opening, closing]]
  | items => [opening] :: (listed items).map ("  " ++ ·) ++ [[closing]]

mutual

/-- The lines of a document. -/
def lines : Json → List Text
  | .array items => enclosed '[' ']' (linesOfItems items)
  | .object fields => enclosed '{' '}' (linesOfFields fields)
  | .null => ["null"]
  | .bool b => [writeBool b]
  | .number n => [writeNumber n]
  | .string t => [writeString t]

/-- The lines of each item of an array. -/
def linesOfItems : List Json → List (List Text)
  | [] => []
  | item :: rest => lines item :: linesOfItems rest

/-- The lines of each field of an object. -/
def linesOfFields : List (Text × Json) → List (List Text)
  | [] => []
  | (name, value) :: rest => labelled name (lines value) :: linesOfFields rest

end

/-- A document has lines. -/
theorem lines_ne_nil (doc : Json) : doc.lines ≠ [] := by
  have henclosed : ∀ opening closing items, enclosed opening closing items ≠ [] := by
    intro opening closing items
    cases items <;> exact List.cons_ne_nil _ _
  cases doc with
  | array items => exact henclosed _ _ _
  | object fields => exact henclosed _ _ _
  | _ => exact List.cons_ne_nil _ _

/-! ## Lines at a level -/

/-- Lines with the indent of a level, each behind a line feed. -/
def atLevel (level : Nat) (ls : List Text) : Text := ls.flatMap (newLine level ++ ·)

theorem atLevel_cons (level : Nat) (l : Text) (ls : List Text) :
    atLevel level (l :: ls) = newLine level ++ l ++ atLevel level ls := List.flatMap_cons

theorem atLevel_append (level : Nat) (ls ls' : List Text) :
    atLevel level (ls ++ ls') = atLevel level ls ++ atLevel level ls' := List.flatMap_append

/-- Two blanks before a line are one level more. -/
theorem atLevel_map_indent (level : Nat) (ls : List Text) :
    atLevel level (ls.map ("  " ++ ·)) = atLevel (level + 1) ls := by
  have hindent : newLine level ++ [' ', ' '] = newLine (level + 1) := by
    rw [newLine, newLine, Nat.mul_succ, ← List.replicate_append_replicate]
    rfl
  rw [atLevel, atLevel, List.flatMap_map]
  refine congrArg (List.flatMap · ls) (funext fun l => ?_)
  rw [← hindent, List.append_assoc]
  rfl

/-- A comma behind the last line is a comma behind the lines. -/
theorem atLevel_addComma (level : Nat) {ls : List Text} (h : ls ≠ []) :
    atLevel level (addComma ls) = atLevel level ls ++ [','] := by
  induction ls with
  | nil => exact absurd rfl h
  | cons l ls ih =>
    cases ls with
    | nil => simp [addComma, atLevel]
    | cons next rest =>
      rw [addComma, atLevel_cons, atLevel_cons, ih (List.cons_ne_nil _ _)]
      · simp only [List.append_assoc]
      · exact List.cons_ne_nil _ _

/-- Lines between brackets stand one level deeper. -/
theorem atLevel_enclosed (level : Nat) (opening closing : Char) (item : List Text)
    (rest : List (List Text)) : atLevel level (enclosed opening closing (item :: rest)) =
      newLine level ++ opening :: atLevel (level + 1) (listed (item :: rest)) ++ newLine level ++
        [closing] := by
  rw [enclosed, atLevel_append, atLevel_cons, atLevel_map_indent]
  · simp [atLevel]
  · exact List.cons_ne_nil _ _

/-- Lines with a name before them are lines. -/
theorem labelled_ne_nil (name : Text) {ls : List Text} (h : ls ≠ []) : labelled name ls ≠ [] := by
  cases ls with
  | nil => exact absurd rfl h
  | cons l ls => exact List.cons_ne_nil _ _

/-- The name of a field stands before what is written as lines. -/
theorem atLevel_labelled (level : Nat) (name : Text) {t : Text} {ls : List Text}
    (h : newLine level ++ t = atLevel level ls) : atLevel level (labelled name ls) =
      newLine level ++ writeString name ++ ": " ++ t := by
  cases ls with
  | nil => cases h
  | cons l ls =>
    rw [atLevel_cons, List.append_assoc] at h
    rw [labelled, atLevel_cons, List.append_cancel_left h]
    simp

mutual

/-- At each level a document is written as its lines with the indent of the level. -/
theorem newLine_writePretty (level : Nat) (doc : Json) :
    newLine level ++ writePretty level doc = atLevel level doc.lines := by
  match doc with
  | .array [] => simp [writePretty, lines, linesOfItems, enclosed, atLevel]
  | .array (item :: items) =>
    have hitems := prettyItems_eq (level + 1) (item :: items)
    rw [linesOfItems] at hitems
    rw [writePretty, lines, linesOfItems, atLevel_enclosed, hitems]
    simp
  | .object [] => simp [writePretty, lines, linesOfFields, enclosed, atLevel]
  | .object ((name, value) :: fields) =>
    have hfields := prettyFields_eq (level + 1) ((name, value) :: fields)
    rw [linesOfFields] at hfields
    rw [writePretty, lines, linesOfFields, atLevel_enclosed, hfields]
    simp
  | .null | .bool _ | .number _ | .string _ => simp [writePretty, lines, atLevel]

/-- Items are written as their lines. -/
theorem prettyItems_eq (level : Nat) (items : List Json) :
    prettyItems level items = atLevel level (listed (linesOfItems items)) := by
  match items with
  | [] => rfl
  | [item] => exact newLine_writePretty level item
  | item :: next :: rest =>
    have hrest := prettyItems_eq level (next :: rest)
    rw [linesOfItems, linesOfItems, listed, atLevel_append,
      atLevel_addComma level (lines_ne_nil item), ← newLine_writePretty level item, ← linesOfItems, ← hrest, prettyItems_cons_cons]
    · simp
    · exact List.cons_ne_nil _ _

/-- Fields are written as their lines. -/
theorem prettyFields_eq (level : Nat) (fields : List (Text × Json)) :
    prettyFields level fields = atLevel level (listed (linesOfFields fields)) := by
  match fields with
  | [] => rfl
  | [(name, value)] =>
    exact (atLevel_labelled level name (newLine_writePretty level value)).symm
  | (name, value) :: next :: rest =>
    have hrest := prettyFields_eq level (next :: rest)
    rw [linesOfFields, linesOfFields, listed, atLevel_append, atLevel_addComma level
      (labelled_ne_nil name (lines_ne_nil value)),
      atLevel_labelled level name (newLine_writePretty level value), ← linesOfFields, ← hrest,
      prettyFields_cons_cons]
    · simp
    · exact List.cons_ne_nil _ _

end

/-- A document is written as its lines. -/
theorem endLine_pretty (doc : Json) : endLine doc.pretty = Text.writeLines doc.lines := by
  have hfeeds : ∀ ls : List Text, atLevel 0 ls ++ ['\n'] = '\n' :: Text.writeLines ls := by
    intro ls
    induction ls with
    | nil => rfl
    | cons l ls ih =>
      rw [atLevel_cons, List.append_assoc, ih]
      simp [newLine, Text.writeLines]
  have hdoc := newLine_writePretty 0 doc
  have hlines := hfeeds doc.lines
  rw [← hdoc] at hlines
  exact (List.cons.inj hlines).2

end FeatureDoc.Json
