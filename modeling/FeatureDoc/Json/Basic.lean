/-
# JSON documents

A JSON document is a tree. A number is an integer if its text was one and it has a 64-bit form,
and a double-precision number otherwise. The fields of an object form a list, so that a writer
may keep an order of its own; the reader keeps them in increasing order of their names.
-/
import FeatureDoc.Decimal.Double
import FeatureDoc.Dictionary

namespace FeatureDoc

/-- A number in a JSON document. -/
inductive Json.Number where
  | integer (n : Int)
  | double (x : Double)
deriving DecidableEq, Repr

/-- A JSON document. -/
inductive Json where
  | null
  | bool (b : Bool)
  | number (n : Json.Number)
  | string (t : Text)
  | array (items : List Json)
  | object (fields : List (Text × Json))

namespace Json

/-- Whether two numbers are the same: integers by value, the others as numbers, and never an
integer and another one. -/
def Number.same : Number → Number → Bool
  | .integer m, .integer n => m == n
  | .double x, .double y => x.sameNumber y
  | _, _ => false

/-- Whether a number is zero. -/
def Number.isZero : Number → Bool
  | .integer n => n == 0
  | .double x => x.isZero

mutual

/-- Whether two documents are the same, with numbers compared as numbers. -/
def same : Json → Json → Bool
  | .null, .null => true
  | .bool a, .bool b => a == b
  | .number a, .number b => a.same b
  | .string a, .string b => a == b
  | .array a, .array b => sameItems a b
  | .object a, .object b => sameFields a b
  | _, _ => false

/-- Whether two lists of documents are the same, item by item. -/
def sameItems : List Json → List Json → Bool
  | [], [] => true
  | a :: as, b :: bs => same a b && sameItems as bs
  | _, _ => false

/-- Whether two lists of fields are the same, field by field. -/
def sameFields : List (Text × Json) → List (Text × Json) → Bool
  | [], [] => true
  | (k, a) :: as, (l, b) :: bs => k == l && same a b && sameFields as bs
  | _, _ => false

end

/-- Whether a document counts as true: it is no null, no zero and not empty. -/
def truthy : Json → Bool
  | .null => false
  | .bool b => b
  | .number n => !n.isZero
  | .string t => !t.isEmpty
  | .array items => !items.isEmpty
  | .object fields => !fields.isEmpty

/-- An array of strings. -/
def strings (ts : List Text) : Json := .array (ts.map .string)

/-- A natural number. -/
def natural (n : Nat) : Json := .number (.integer n)

end Json

end FeatureDoc
