/-
# Arguments of steps

An implementation of a step declares formal arguments. When the step runs, each of them gets a
value; the values are passed as a list of bindings in the order of the declaration.
-/
import FeatureDoc.Example.Row

namespace FeatureDoc

/-- An argument that the implementation of a step declares. -/
structure Formal where
  /-- The name under which a value is looked for. -/
  name : Text
  /-- The value if nothing else provides one. -/
  default : Option Value

/-- Arguments with their values, in the order of their declaration. -/
abbrev Arguments := List (Text × Value)

/-- Why the implementation of a step failed. -/
inductive StepError where
  /-- It asked for an argument that it was not given. -/
  | missingArgument (name : Text)
  /-- It was given a value that it cannot use. -/
  | invalidArgument (name value : Text)
  /-- It failed for a reason of its own. -/
  | failed (reason : Text)
deriving DecidableEq, Repr

/-- What is said about a step whose implementation failed. -/
def StepError.message : StepError → Text
  | missingArgument name => "missing argument `" ++ name ++ "`"
  | invalidArgument name value =>
    "argument `" ++ name ++ "` has unexpected value `" ++ value ++ "`"
  | failed reason => reason

namespace Arguments

/-- The value of an argument: that of its first binding. -/
def get? (args : Arguments) (name : Text) : Option Value :=
  (args.find? fun binding => binding.1 = name).map Prod.snd

/-- Whether an argument has a value. -/
def has (args : Arguments) (name : Text) : Bool := (args.get? name).isSome

/-- The names of the arguments that have values. -/
def names (args : Arguments) : List Text := args.map Prod.fst

/-- The value of an argument that has to be there. -/
def require (args : Arguments) (name : Text) : Except StepError Value :=
  match args.get? name with
  | some v => .ok v
  | none => .error (.missingArgument name)

/-- The arguments as reports show them. -/
def display (args : Arguments) : Text := Pieces.joined ", " (Row.display args)

end Arguments

end FeatureDoc
