/-
# Features as JSON documents

The JSON form of a feature has the fields of the tree in a fixed order. Its paths are written as
texts.
-/
import FeatureDoc.Feature.Basic
import FeatureDoc.Json.Record

namespace FeatureDoc

/-- A text that may be missing, as a JSON document. -/
def optionJson : Option Text → Json
  | none => .null
  | some t => .string t

/-- A step as a JSON document. -/
def Step.toJson (s : Step) : Json := .object [
  ("step_type", .string s.type.word),
  ("keyword", .string s.keyword),
  ("text", .string s.text),
  ("lines", .strings s.lines),
  ("canonical", .string s.canonical),
  ("indent", .natural s.indent),
  ("constants", Param.constantsJson s.constants),
  ("aliases", Param.aliasesJson s.aliases),
  ("line", .natural s.line)]

/-- An example block as a JSON document; its rows are those of either orientation. -/
def ExampleBlock.toJson (b : ExampleBlock) : Json := .object [
  ("orientation", .string b.orientation.word),
  ("line", .natural b.line),
  ("names", .strings b.names),
  ("rows", .array (b.rows.map Json.strings))]

/-- A scenario as a JSON document. -/
def Scenario.toJson (s : Scenario) : Json := .object [
  ("name", .string s.name),
  ("line", .natural s.line),
  ("keyword", .string s.keyword),
  ("tags", .strings s.tags),
  ("description", .string s.description),
  ("steps", .array (s.steps.map Step.toJson)),
  ("examples", .array (s.examples.map ExampleBlock.toJson))]

/-- A background as a JSON document. -/
def Background.toJson (b : Background) : Json := .object [
  ("line", .natural b.line),
  ("description", .string b.description),
  ("steps", .array (b.steps.map Step.toJson))]

/-- A background that may be missing, as a JSON document. -/
def backgroundJson : Option Background → Json
  | none => .null
  | some b => b.toJson

/-- A feature as a JSON record. Paths that are no texts have no JSON form. -/
def Feature.toJson (f : Feature) : Json.Record where
  fields := [
    ("name", optionJson f.name),
    ("tags", Json.strings f.tags),
    ("description", Json.string f.description),
    ("path", f.path.text?.map .string),
    ("rel_path", f.relativePath.text?.map .string),
    ("line", Json.natural f.line),
    ("scenarios", Json.array (f.scenarios.map Scenario.toJson)),
    ("background", backgroundJson f.background),
    ("examples", Json.array (f.examples.map ExampleBlock.toJson))]

end FeatureDoc
