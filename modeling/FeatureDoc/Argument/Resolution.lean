/-
# Resolving arguments

Each formal argument of a step is looked for in a fixed order: among the constants of the step's
text, among its aliases, among the values bound by the matched definition, in the current example
row, at the value source, and at last its default is taken.
-/
import FeatureDoc.Argument.Basic
import FeatureDoc.Feature.Step
import FeatureDoc.Pattern.Basic
import FeatureDoc.Journal

namespace FeatureDoc

/-! ## Where values come from -/

/-- Why a value source has no value for a name. -/
inductive LookupError where
  /-- It knows no such name. -/
  | notFound (name : Text)
  /-- It knows the name and could not make the value. -/
  | failed (reason : Text)
deriving DecidableEq, Repr

/-- What is said about a name without a value. -/
def LookupError.message : LookupError → Text
  | notFound name => "no value named `" ++ name ++ "`"
  | failed reason => reason

/-- Where the values of a running scenario come from. -/
structure Source where
  /-- The current example row. -/
  row : Option Row
  /-- The value of any other name. -/
  lookup : Text → Except LookupError Value

/-- Why the arguments of a step could not be resolved. -/
inductive ResolveError where
  /-- An argument has no value and no default. -/
  | unresolved (name step : Text)
  /-- The value source failed. -/
  | lookup (name target reason : Text)
  /-- A captured text could not be converted. -/
  | capture (name raw : Text) (cause : ConversionError)
  /-- The value of an alias could not be converted. -/
  | aliasConversion (name target : Text) (cause : ConversionError)
deriving DecidableEq

/-- What is said about arguments that could not be resolved. -/
def ResolveError.message : ResolveError → Text
  | unresolved name step => "unresolved parameter `" ++ name ++ "` for step `" ++ step ++ "`"
  | lookup name target reason =>
    "lookup of `" ++ target ++ "` for parameter `" ++ name ++ "` failed: " ++ reason
  | capture name raw cause =>
    "captured value `" ++ raw ++ "` for parameter `" ++ name ++ "` could not convert: " ++
      cause.message
  | aliasConversion name target cause =>
    "alias parameter `" ++ name ++ "` could not convert `" ++ target ++ "`: " ++ cause.message

/-! ## What the matched definition binds -/

/-- The name under which the content of a step is bound. -/
def contentName : Text := "docstring"

/-- The values of captured texts, in their order; the first that cannot be converted decides. -/
def captureValues : List Pattern.Capture → Except ResolveError Arguments
  | [] => .ok []
  | c :: rest =>
    match c.value with
    | .error cause => .error (.capture c.name c.raw cause)
    | .ok v => (captureValues rest).map ((c.name, v) :: ·)

/-- The bindings of a matched step: its captures, then its content. -/
def Step.bindings (step : Step) (captures : List Pattern.Capture) :
    Except ResolveError Arguments :=
  (captureValues captures).map fun values =>
    match step.content with
    | some content => values ++ [(contentName, .text content)]
    | none => values

/-! ## One argument -/

/-- The value of a name in the current row or at the source; `asked` is the argument for which
it is wanted. -/
def Source.find (source : Source) (asked name : Text) : Except ResolveError (Option Value) :=
  match source.row.bind (Row.get? · name) with
  | some v => .ok (some v)
  | none =>
    match source.lookup name with
    | .ok v => .ok (some v)
    | .error (.notFound _) => .ok none
    | .error (.failed reason) => .error (.lookup asked name reason)

/-- The default of an argument that nothing else provides. -/
def Formal.fallback (f : Formal) (step : Step) : Except ResolveError Value :=
  match f.default with
  | some v => .ok v
  | none => .error (.unresolved f.name step.name)

/-- The value of a name in the current row or at the source, or else the default. -/
def Formal.findOrDefault (f : Formal) (step : Step) (source : Source) (name : Text) :
    Except ResolveError (Value × Bool) :=
  match source.find f.name name with
  | .error e => .error e
  | .ok (some v) => .ok (v, true)
  | .ok none => (f.fallback step).map (·, false)

/-- The value of an alias: that of its target after the code, or else the default as it is. -/
def resolveAlias (step : Step) (f : Formal) (source : Source) (a : Param.Alias) :
    Except ResolveError Value :=
  match f.findOrDefault step source a.target, a.post with
  | .error e, _ => .error e
  | .ok (v, false), _ | .ok (v, true), none => .ok v
  | .ok (v, true), some code =>
    match Code.apply code v with
    | .ok w => .ok w
    | .error cause => .error (.aliasConversion f.name a.target cause)

/-- The value of one argument; an argument that is left out and has no default has none. -/
def resolveOne (step : Step) (bound : Arguments) (source : Source) (f : Formal) :
    Except ResolveError (Option Value) :=
  match step.constants.find? f.name with
  | some (.value v) => .ok (some v)
  | some .skip => .ok f.default
  | none =>
    match step.aliases.find? f.name with
    | some a => (resolveAlias step f source a).map some
    | none =>
      match bound.get? f.name with
      | some v => .ok (some v)
      | none => (f.findOrDefault step source f.name).map fun found => some found.1

/-! ## All arguments -/

/-- The arguments up to the first that cannot be resolved, and why it cannot. -/
def resolveUpTo (step : Step) (bound : Arguments) (source : Source) :
    List Formal → Arguments × Option ResolveError
  | [] => ([], none)
  | f :: rest =>
    match resolveOne step bound source f with
    | .error e => ([], some e)
    | .ok none => resolveUpTo step bound source rest
    | .ok (some v) =>
      let (args, e) := resolveUpTo step bound source rest
      ((f.name, v) :: args, e)

/-- The arguments of a step, from the values bound by the matched definition and a source. -/
def Step.resolve (step : Step) (formals : List Formal) (bound : Arguments) (source : Source) :
    Except ResolveError Arguments :=
  match resolveUpTo step bound source formals with
  | (args, none) => .ok args
  | (_, some e) => .error e

/-- What is made known while the arguments of a step are resolved: each one that got a value. -/
def Step.resolveNotes (step : Step) (formals : List Formal) (bound : Arguments)
    (source : Source) : Journal :=
  (resolveUpTo step bound source formals).1.map fun (name, _) =>
    ⟨.trace, .resolving, "resolved `" ++ name ++ "` for step " ++ step.display⟩

end FeatureDoc
