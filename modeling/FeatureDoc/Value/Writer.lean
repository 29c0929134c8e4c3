/-
# Written forms of values

A value is shown to readers as plainly as it can be, shown in diagnostics with its kind, and
turned into JSON for reports.
-/
import FeatureDoc.Value.Basic
import FeatureDoc.Json.Writer

namespace FeatureDoc.Value

/-! ## The form for readers -/

mutual

/-- A value as a reader of a report sees it. -/
def display : Value → Text
  | .null => "null"
  | .bool b => Json.writeBool b
  | .int n => Text.ofInt n.toInt
  | .double x => Decimal.write .plain x
  | .text t => t
  | .list items => '[' :: displayItems items ++ [']']
  | .json doc => doc.write
  | .host _ => "<opaque>"

/-- The items of a list, separated by commas and blanks. -/
def displayItems : List Value → Text
  | [] => []
  | [item] => display item
  | item :: rest => display item ++ ", " ++ displayItems rest

end

/-! ## The form for diagnostics -/

mutual

/-- A value with its kind. -/
def inspect : Value → Text
  | .null => "Null"
  | .bool b => "Bool(" ++ Json.writeBool b ++ ")"
  | .int n => "Int(" ++ Text.ofInt n.toInt ++ ")"
  | .double x => "Float(" ++ Decimal.write .inspect x ++ ")"
  | .text t => "Str(" ++ Text.quoted t ++ ")"
  | .list items => "List([" ++ inspectItems items ++ "])"
  | .json doc => "Json(" ++ doc.inspect ++ ")"
  | .host _ => "Opaque(..)"

/-- The items of a list, separated by commas and blanks. -/
def inspectItems : List Value → Text
  | [] => []
  | [item] => inspect item
  | item :: rest => inspect item ++ ", " ++ inspectItems rest

end

/-- A value that may be missing, with its kind. -/
def inspectOption : Option Value → Text
  | none => "None"
  | some v => "Some(" ++ inspect v ++ ")"

/-! ## The form in reports -/

mutual

/-- A value as a JSON document. Numbers that are not finite become null, and host values a
placeholder. -/
def toJson : Value → Json
  | .null => .null
  | .bool b => .bool b
  | .int n => .number (.integer n.toInt)
  | .double x => if x.isFinite then .number (.double x) else .null
  | .text t => .string t
  | .list items => .array (toJsonItems items)
  | .json doc => doc
  | .host _ => .string "<opaque>"

/-- The items of a list as JSON documents. -/
def toJsonItems : List Value → List Json
  | [] => []
  | item :: rest => toJson item :: toJsonItems rest

end

end FeatureDoc.Value
