/-
# Argument values

A value is what a step receives for a parameter. Cells of example tables start out as texts;
conversion codes make the other kinds from them. A host value stands for anything that the
program running the steps supplies; it has an identity and nothing else.
-/
import FeatureDoc.Json.Basic

namespace FeatureDoc

/-- A value that a step receives. -/
inductive Value where
  | null
  | bool (b : Bool)
  | int (n : Int64)
  | double (x : Double)
  | text (t : Text)
  | list (items : List Value)
  | json (doc : Json)
  /-- A value supplied by the host, known by its identity. -/
  | host (id : Nat)

namespace Value

instance : Inhabited Value := ⟨null⟩

mutual

/-- Whether two values are the same. Double-precision numbers are compared by their bits and host
values by their identity. -/
def same : Value → Value → Bool
  | .null, .null => true
  | .bool a, .bool b => a == b
  | .int a, .int b => a == b
  | .double a, .double b => a.bits == b.bits
  | .text a, .text b => a == b
  | .list a, .list b => sameItems a b
  | .json a, .json b => a.same b
  | .host a, .host b => a == b
  | _, _ => false

/-- Whether two lists of values are the same, item by item. -/
def sameItems : List Value → List Value → Bool
  | [], [] => true
  | a :: as, b :: bs => same a b && sameItems as bs
  | _, _ => false

end

/-- Whether the value is one that documents can make, and so not of the host. -/
def isBuiltin : Value → Bool
  | .host _ => false
  | _ => true

/-- Whether the value counts as true: it is no null, no zero and not empty. -/
def truthy : Value → Bool
  | .null => false
  | .bool b => b
  | .int n => n != 0
  | .double x => !x.isZero
  | .text t => !t.isEmpty
  | .list items => !items.isEmpty
  | .json doc => doc.truthy
  | .host _ => true

/-! ## The parts of a value -/

/-- Whether the value is null. -/
def isNull : Value → Bool
  | .null => true
  | _ => false

/-- The text of a text value. -/
def text? : Value → Option Text
  | .text t => some t
  | _ => none

/-- The number of an integer value. -/
def int? : Value → Option Int64
  | .int n => some n
  | _ => none

/-- The number of a double-precision value. -/
def double? : Value → Option Double
  | .double x => some x
  | _ => none

/-- The truth value of a boolean value. -/
def bool? : Value → Option Bool
  | .bool b => some b
  | _ => none

/-- The items of a list value. -/
def list? : Value → Option (List Value)
  | .list items => some items
  | _ => none

end Value

end FeatureDoc
