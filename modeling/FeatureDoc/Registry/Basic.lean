/-
# The registry of step definitions

A definition says what a step does. Its name is the text of the step, or a pattern if it has
braces. The registry keeps the first definition of each type and name, refuses the others, and
finds the definition for a step: one with exactly its text, or else the most specific pattern
that matches, the earliest of several.
-/
import FeatureDoc.Argument.Basic
import FeatureDoc.Pattern.Basic
import FeatureDoc.StepType
import FeatureDoc.Journal

namespace FeatureDoc

/-- What a step does. -/
structure Definition where
  type : StepType
  /-- The text of the step, or a pattern for it. -/
  name : Text
  /-- The arguments that it declares. -/
  formals : List Formal
  /-- What it does with its arguments; it may yield a value. -/
  run : Arguments → Except StepError (Option Value)
  /-- The name to which the value that it yields is bound. -/
  target : Option Text
  /-- The file in which it is defined. -/
  file : Text
  /-- The line on which it is defined. -/
  line : Nat

/-- The place of a definition. -/
def Definition.location (d : Definition) : Text := d.file ++ ':' :: Text.ofNat d.line

/-- Why a definition was refused. -/
inductive RegistryError where
  /-- There is one of its type and name already. -/
  | duplicate (type : StepType) (name kept refused : Text)
  /-- Its name has braces and is no pattern. -/
  | invalidPattern (type : StepType) (name location : Text) (cause : Pattern.Error)
deriving DecidableEq

namespace RegistryError

/-- What is said about a definition that was refused. -/
def message : RegistryError → Text
  | duplicate type name kept refused =>
    "duplicate " ++ type.word ++ " step \"" ++ name ++ "\" at " ++ refused ++
      "; keeping the one at " ++ kept
  | invalidPattern type name location cause =>
    "invalid " ++ type.word ++ " step pattern \"" ++ name ++ "\" at " ++ location ++ ": " ++
      cause.message

/-- Whether the definition was refused for one of its type and name. -/
def isDuplicate : RegistryError → Bool
  | duplicate .. => true
  | invalidPattern .. => false

end RegistryError

/-- The definitions that were kept, and those that were refused. -/
structure Registry where
  /-- The definitions that were kept, in the order in which they came. -/
  definitions : List Definition
  /-- Those whose names are patterns. -/
  patterns : List (Pattern × Definition)
  /-- Why the others were refused, in the order in which they came. -/
  refused : List RegistryError

namespace Registry

/-- The registry without definitions. -/
def empty : Registry := { definitions := [], patterns := [], refused := [] }

/-- The definition of a type and name. -/
def get? (r : Registry) (type : StepType) (name : Text) : Option Definition :=
  r.definitions.find? fun d => d.type = type ∧ d.name = name

/-- Takes up a definition, or refuses it. -/
def add (r : Registry) (d : Definition) : Registry :=
  match r.get? d.type d.name with
  | some kept =>
    { r with refused := r.refused ++ [.duplicate d.type d.name kept.location d.location] }
  | none =>
    if Pattern.isPattern d.name then
      match Pattern.compile d.name with
      | .ok p => { r with definitions := r.definitions ++ [d], patterns := r.patterns ++ [(p, d)] }
      | .error cause =>
        { r with refused := r.refused ++ [.invalidPattern d.type d.name d.location cause] }
    else { r with definitions := r.definitions ++ [d] }

/-- Whether one pattern is tried before another, if both came in this order. -/
def triedBefore (a b : Pattern × Definition) : Bool :=
  a.1.specificity.compare b.1.specificity != .lt

/-- The registry of a list of definitions, with the most specific patterns first. -/
def ofList (ds : List Definition) : Registry :=
  let r := ds.foldl add empty
  { r with patterns := r.patterns.mergeSort triedBefore }

/-- What is made known when a registry has been made. -/
def notes (r : Registry) : Journal :=
  (r.refused.map fun e => ⟨.warn, .registering, e.message⟩) ++
    [⟨.debug, .registering, "step registry holds " ++ Text.ofNat r.definitions.length ++
      " definition(s), " ++ Text.ofNat r.patterns.length ++ " of them patterns"⟩]

/-- The definitions that were refused for an earlier one. -/
def duplicates (r : Registry) : List RegistryError := r.refused.filter RegistryError.isDuplicate

/-- The definitions that were refused for their patterns. -/
def invalidPatterns (r : Registry) : List RegistryError :=
  r.refused.filter fun e => !e.isDuplicate

/-! ## Finding the definition for a step -/

/-- The definition for a step, with what its pattern captured. -/
structure Match where
  definition : Definition
  captures : List Pattern.Capture

/-- What one pattern makes of a step. -/
def matchPattern (type : StepType) (t : Text) (entry : Pattern × Definition) : Option Match :=
  if entry.2.type = type then
    (entry.1.captures t).map fun captures => { definition := entry.2, captures }
  else none

/-- The definition for a step with the given text. -/
def find? (r : Registry) (type : StepType) (t : Text) : Option Match :=
  match (r.get? type t).filter fun d => !Pattern.isPattern d.name with
  | some d => some { definition := d, captures := [] }
  | none => r.patterns.findSome? (matchPattern type t)

end Registry

end FeatureDoc
