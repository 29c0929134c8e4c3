/-
# Scanning the text of a step

The variants in the text of a step bind their names: to a constant, which the codes make of the
literal, or to an alias, whose literal names the value to take. The last variant of a name
decides.
-/
import FeatureDoc.Param.Token
import FeatureDoc.Code.Basic

namespace FeatureDoc.Param

/-- What a variant without the code `A` binds its name to. -/
inductive Constant where
  /-- This value is passed. -/
  | value (v : Value)
  /-- No value is passed, so that the default of the step applies. -/
  | skip

/-- What a variant with the code `A` binds its name to. -/
structure Alias where
  /-- The name whose value is taken. -/
  target : Text
  /-- The code that is applied to this value. -/
  post : Option Char
deriving DecidableEq, Repr

/-- Why a variant binds nothing. -/
inductive ScanError where
  /-- One of its characters is no code. -/
  | unknownCode (name : Text) (code : Char)
  /-- The code for the value of an alias converts nothing. -/
  | postCode (name : Text) (code : Char)
  /-- Its literal could not be converted. -/
  | literal (name : Text) (cause : ConversionError)
deriving DecidableEq

/-- What is said about a variant that binds nothing. -/
def ScanError.message : ScanError → Text
  | unknownCode name code =>
    "unknown conversion code `" ++ [code] ++ "` in parameter `" ++ name ++ "` (valid: [" ++
      Pieces.joined "," (Code.characters.map fun c => [c]) ++ "])"
  | postCode name code =>
    "code `" ++ [code] ++ "` cannot post-process alias parameter `" ++ name ++ "`"
  | literal name cause => "invalid literal for parameter `" ++ name ++ "`: " ++ cause.message

/-- What is said about the causes of an error, from the nearest to the first. -/
def ScanError.causes : ScanError → List Text
  | literal _ cause => [cause.message]
  | _ => []

/-! ## A single variant -/

/-- What a variant binds its name to. -/
inductive Binding where
  | constant (c : Constant)
  | reference (a : Alias)

/-- Whether a code converts values. -/
def isConverting (code : Char) : Bool :=
  match Code.action? code with
  | some (.convert _) => true
  | _ => false

/-- Whether a code leaves its argument out. -/
def isSkip (code : Char) : Bool :=
  match Code.action? code with
  | some .skip => true
  | _ => false

/-- The alias for a target; of the codes after the `A`, the last one is applied to its value. -/
def aliasOf (name target after : Text) : Except ScanError Alias :=
  match after.getLast? with
  | none => .ok ⟨target, none⟩
  | some code => if isConverting code then .ok ⟨target, some code⟩ else .error (.postCode name code)

/-- The constant that codes make of a literal. Without codes it is the literal itself, or nothing
if that is empty. -/
def constantOf (name codes literal : Text) : Except ScanError Constant :=
  if codes = [] then .ok (if literal = [] then .skip else .value (.text literal))
  else if codes.any isSkip then .ok .skip
  else match Code.applyAll codes (.text literal) with
    | .ok v => .ok (.value v)
    | .error cause => .error (.literal name cause)

/-- What a variant binds its name to. All its characters have to be codes; with an `A` among
them it is an alias. -/
def bindingOf (name : Text) (codes : Option Text) (literal : Text) : Except ScanError Binding :=
  let codes := codes.getD []
  match codes.find? fun c => !Code.isCode c with
  | some code => .error (.unknownCode name code)
  | none =>
    match Text.cutAt? 'A' codes with
    | some (_, after) => (aliasOf name literal after).map .reference
    | none => (constantOf name codes literal).map .constant

/-! ## All variants of a text -/

/-- What scanning the text of a step yields. -/
structure Scanned where
  /-- The text with every variant turned into a general parameter. -/
  canonical : Text
  /-- The names bound to constants. -/
  constants : Dictionary Constant
  /-- The names bound to aliases. -/
  aliases : Dictionary Alias

/-- Binds a name, and frees it from what it was bound to before. -/
def Scanned.bind (s : Scanned) (name : Text) : Binding → Scanned
  | .constant c =>
    { s with constants := s.constants.insert name c, aliases := s.aliases.erase name }
  | .reference a =>
    { s with constants := s.constants.erase name, aliases := s.aliases.insert name a }

/-- Binds the names of the variants among some tokens from left to right. -/
def bindTokens : Scanned → List Token → Except ScanError Scanned
  | s, [] => .ok s
  | s, .general _ :: rest => bindTokens s rest
  | s, .variant name codes literal :: rest =>
    match bindingOf name codes literal with
    | .ok binding => bindTokens (s.bind name binding) rest
    | .error e => .error e

/-- Scans the text of a step. -/
def scan (t : Text) : Except ScanError Scanned :=
  bindTokens { canonical := canonicalize t, constants := [], aliases := [] } (tokens t)

/-- Binding a name leaves the canonical text as it is. -/
@[simp] theorem Scanned.canonical_bind (s : Scanned) (name : Text) (binding : Binding) :
    (s.bind name binding).canonical = s.canonical := by
  cases binding <;> rfl

/-- Binding the names of tokens leaves the canonical text as it is. -/
theorem canonical_of_bindTokens {s s' : Scanned} {tokens : List Token}
    (h : bindTokens s tokens = .ok s') : s'.canonical = s.canonical := by
  induction tokens generalizing s with
  | nil =>
    obtain rfl := Except.ok.inj h
    rfl
  | cons token rest ih =>
    cases token with
    | general name => exact ih h
    | variant name codes literal =>
      unfold bindTokens at h
      split at h
      · rename_i binding _
        exact (ih h).trans (s.canonical_bind name binding)
      · cases h

/-- The canonical text of what scanning yields does not depend on the bindings. -/
theorem canonical_of_scan {t : Text} {s : Scanned} (h : scan t = .ok s) :
    s.canonical = canonicalize t :=
  canonical_of_bindTokens h

/-! ## The form in reports -/

/-- A constant as a JSON document. -/
def Constant.toJson : Constant → Json
  | value v => .object [("value", v.toJson)]
  | skip => .string "skip"

/-- A code that may be missing, as a JSON document. -/
def codeJson : Option Char → Json
  | none => .null
  | some c => .string [c]

/-- An alias as a JSON document. -/
def Alias.toJson (a : Alias) : Json :=
  .object [("target", .string a.target), ("post", codeJson a.post)]

/-- Constants as a JSON document. -/
def constantsJson (d : Dictionary Constant) : Json :=
  .object (d.map fun (name, c) => (name, c.toJson))

/-- Aliases as a JSON document. -/
def aliasesJson (d : Dictionary Alias) : Json :=
  .object (d.map fun (name, a) => (name, a.toJson))

/-- What scanning yields, as a JSON document. -/
def Scanned.toJson (s : Scanned) : Json :=
  .object [("canonical", .string s.canonical), ("constants", constantsJson s.constants),
    ("aliases", aliasesJson s.aliases)]

end FeatureDoc.Param
