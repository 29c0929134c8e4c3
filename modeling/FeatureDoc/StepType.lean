/-
# Step types

A step sets the context of a scenario, performs its action or states its outcome. The three
types are written with the words `given`, `when` and `then`.
-/
import FeatureDoc.Text.Blank

namespace FeatureDoc

/-- What a step is for. -/
inductive StepType where
  /-- A `given` step: what holds before the scenario. -/
  | context
  /-- A `when` step: what is done. -/
  | action
  /-- A `then` step: what has to hold afterwards. -/
  | outcome
deriving DecidableEq, Repr

namespace StepType

/-- The word of a type in small letters. -/
def word : StepType → Text
  | context => "given"
  | action => "when"
  | outcome => "then"

/-- The word of a type with a capital letter, as it stands at the beginning of a step. -/
def keyword : StepType → Text
  | context => "Given"
  | action => "When"
  | outcome => "Then"

/-- The step types in the order in which documents use them. -/
def all : List StepType := [context, action, outcome]

/-- A text that is no word of a step type. -/
structure Unknown where
  /-- The text without surrounding blanks. -/
  text : Text
deriving DecidableEq

/-- What is said about a text that names no step type. -/
def Unknown.message (e : Unknown) : Text := "invalid step type: " ++ e.text

/-- Reads the word of a step type, in any case and between any blanks. -/
def read (t : Text) : Except Unknown StepType :=
  match all.find? fun type => Text.lowerAscii (Text.trim t) = type.word with
  | some type => .ok type
  | none => .error ⟨Text.trim t⟩

end StepType

end FeatureDoc
