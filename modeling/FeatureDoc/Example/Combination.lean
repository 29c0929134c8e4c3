/-
# Combining example blocks

Every example block of a scenario is a group of rows: first the blocks of the scenario itself,
then those of its feature, without the columns that the scenario's own blocks have. A scenario
runs once for every way to pick a row from each group.
-/
import FeatureDoc.Feature.Basic
import FeatureDoc.Example.Row
import FeatureDoc.Text.Quoted

namespace FeatureDoc

/-! ## Converting cells -/

/-- A conversion of the cells of a column; it may refuse a cell and say why. -/
abbrev Converter := Text → Except Text Value

/-- How cells become values. -/
structure Conversion where
  /-- The conversions of columns; a column without one keeps its texts. -/
  converters : Dictionary Converter
  /-- Whether a cell whose value would be one of the host keeps its text. -/
  builtinOnly : Bool

/-- A cell that its conversion refused. -/
structure ConversionRefused where
  /-- The column of the cell. -/
  name : Text
  /-- The cell. -/
  raw : Text
  /-- Why it was refused. -/
  reason : Text
deriving DecidableEq, Repr

/-- What is said about a cell that was refused. -/
def ConversionRefused.message (e : ConversionRefused) : Text :=
  "cannot convert example value `" ++ e.raw ++ "` for parameter `" ++ e.name ++ "`: " ++ e.reason

namespace Conversion

/-- Cells keep their texts. -/
def none : Conversion := { converters := [], builtinOnly := false }

/-- Whether a column has a conversion. -/
def converts (o : Conversion) (name : Text) : Bool := (o.converters.find? name).isSome

/-- The value of a cell. -/
def convert (o : Conversion) (name raw : Text) : Except ConversionRefused Value :=
  match o.converters.find? name with
  | .none => .ok (.text raw)
  | some f =>
    match f raw with
    | .error reason => .error { name, raw, reason }
    | .ok v => .ok (if o.builtinOnly && !v.isBuiltin then .text raw else v)

/-- A conversion as diagnostics show it. -/
def inspect (o : Conversion) : Text :=
  "ParametrizeOptions \x7b converters: " ++ Text.quotedList o.converters.names ++
    ", builtin_only: " ++ Json.writeBool o.builtinOnly ++ " \x7d"

end Conversion

/-! ## Groups of rows -/

/-- Where an example block stands. -/
inductive Scope where
  | scenario
  | feature
deriving DecidableEq, Repr

/-- The name of a scope in small letters. -/
def Scope.word : Scope → Text
  | scenario => "scenario"
  | feature => "feature"

/-- The rows of an example block with their values. -/
structure Group where
  scope : Scope
  /-- The number of the line that opens the block. -/
  line : Nat
  /-- The columns that are kept. -/
  names : List Text
  /-- The values of each row in these columns. -/
  rows : List (List Value)

namespace Group

/-- The values of the cells of one row, from left to right; the first refused cell decides. -/
def convertCells (o : Conversion) : List (Text × Text) → Except ConversionRefused (List Value)
  | [] => .ok []
  | (name, raw) :: rest =>
    match o.convert name raw with
    | .error e => .error e
    | .ok v => (convertCells o rest).map (v :: ·)

/-- The places of the columns that are kept. -/
def keptColumns (keep : Text → Bool) (names : List Text) : List Nat :=
  (names.zipIdx.filter fun column => keep column.1).map Prod.snd

/-- What a row holds in some columns. -/
def select (columns : List Nat) (row : List Text) : List Text := columns.filterMap (row[·]?)

/-- The values of rows of cells in some columns of these names; the first refused cell decides. -/
def convertRows (o : Conversion) (columns : List Nat) (names : List Text) :
    List (List Text) → Except ConversionRefused (List (List Value))
  | [] => .ok []
  | row :: rest =>
    match convertCells o (names.zip (select columns row)) with
    | .error e => .error e
    | .ok values => (convertRows o columns names rest).map (values :: ·)

/-- The group of a block in some of its columns; a block without rows makes none. -/
def ofBlock (o : Conversion) (scope : Scope) (columns : List Nat) (b : ExampleBlock) :
    Except ConversionRefused (List Group) :=
  let names := select columns b.names
  (convertRows o columns names b.rows).map fun rows =>
    if rows = [] then [] else [{ scope, line := b.line, names, rows }]

/-- The groups of blocks in the columns that are kept, in a row; the first refused cell decides. -/
def ofBlocks (o : Conversion) (scope : Scope) (keep : Text → Bool) :
    List ExampleBlock → Except ConversionRefused (List Group)
  | [] => .ok []
  | b :: rest =>
    match ofBlock o scope (keptColumns keep b.names) b with
    | .error e => .error e
    | .ok groups => (ofBlocks o scope keep rest).map (groups ++ ·)

/-- A group as a JSON document. -/
def toJson (g : Group) : Json := .object [
  ("scope", .string g.scope.word),
  ("line", .natural g.line),
  ("names", .strings g.names),
  ("rows", .array (g.rows.map fun row => .array (row.map Value.toJson)))]

end Group

/-! ## Combining groups -/

/-- The names of the columns of a scenario's own blocks. -/
def Scenario.columns (s : Scenario) : List Text := s.examples.flatMap ExampleBlock.names

/-- The blocks of a feature that have a column which the scenario has not. -/
def Feature.unshadowed (f : Feature) (s : Scenario) : List ExampleBlock :=
  f.examples.filter fun b => b.names.any fun name => name ∉ s.columns

/-- The groups of a scenario: those of its own blocks, then those of its feature in the columns
that its own blocks have not. -/
def Feature.groups (f : Feature) (s : Scenario) (o : Conversion) :
    Except ConversionRefused (List Group) :=
  match Group.ofBlocks o .scenario (fun _ => true) s.examples with
  | .error e => .error e
  | .ok own =>
    (Group.ofBlocks o .feature (fun name => name ∉ s.columns) (f.unshadowed s)).map (own ++ ·)

/-- The rows of a group, each bound to the names of its columns. -/
def Group.bindings (g : Group) : List Row := g.rows.map fun row => g.names.zip row

/-- Every way to pick one row from each group, those of the first group varying slowest. -/
def instances (groups : List Group) : List Row :=
  groups.foldl (fun rows g => rows.flatMap fun row => g.bindings.map (row ++ ·)) [[]]

/-- The groups of a scenario as a JSON document. -/
def groupsJson (groups : List Group) : Json :=
  .object [("groups", .array (groups.map Group.toJson))]

end FeatureDoc
