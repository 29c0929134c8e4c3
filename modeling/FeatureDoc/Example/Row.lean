/-
# Example rows

A row gives values to names. It keeps every binding in order; of several bindings of a name the
last one counts.
-/
import FeatureDoc.Value.Writer

namespace FeatureDoc

/-- Names with their values, in the order of their binding. -/
abbrev Row := List (Text × Value)

namespace Row

/-- The value of a name: that of its last binding. -/
def get? (row : Row) (name : Text) : Option Value :=
  (row.reverse.find? fun binding => binding.1 = name).map Prod.snd

/-- The names of a row in the order of their binding. -/
def names (row : Row) : List Text := row.map Prod.fst

/-- A row as a JSON document; a name that is bound twice stands there twice. -/
def toJson (row : Row) : Json := .object (row.map fun (name, v) => (name, v.toJson))

/-- The bindings of a row as reports show them. -/
def display (row : Row) : List Text := row.map fun (name, v) => name ++ '=' :: v.display

/-- A name is bound to the value that has just been bound to it. -/
@[simp] theorem get?_append_self (row : Row) (name : Text) (v : Value) :
    get? (row ++ [(name, v)]) name = some v := by
  simp [get?]

/-- Binding a name leaves the other names alone. -/
theorem get?_append_of_ne {name other : Text} (h : name ≠ other) (row : Row) (v : Value) :
    get? (row ++ [(name, v)]) other = get? row other := by
  simp [get?, h]

/-- The first binding of a row counts if no later one has its name. -/
theorem get?_cons (binding : Text × Value) (row : Row) (name : Text) :
    get? (binding :: row) name =
      (get? row name).or (if binding.1 = name then some binding.2 else none) := by
  rw [get?, List.reverse_cons, List.find?_append, Option.map_or, get?, List.find?_singleton]
  by_cases h : binding.1 = name <;> simp [h]

/-- The names that have values are those that are bound. -/
theorem exists_get?_eq_some_iff {row : Row} {name : Text} :
    (∃ v, get? row name = some v) ↔ name ∈ row.names := by
  rw [← Option.isSome_iff_exists, get?, Option.isSome_map, List.find?_isSome, names,
    List.mem_map]
  simp only [List.mem_reverse, decide_eq_true_eq]

end Row

end FeatureDoc
