/-
# Reading numbers

Integers are an optional sign and ASCII digits, and have to fit 64 bits. Numbers with a point or
an exponent are rounded to double precision; infinities and what is not a number have names.
-/
import FeatureDoc.Decimal.Double
import FeatureDoc.Text.Basic

namespace FeatureDoc.Decimal

/-! ## Integers -/

/-- Why a text is no 64-bit integer. -/
inductive IntegerFault where
  | empty
  | badDigit
  | outOfRange
deriving DecidableEq, Repr

/-- What is said about a text that is no integer. -/
def IntegerFault.message : IntegerFault → Text
  | empty => "cannot parse integer from empty string"
  | badDigit => "invalid digit found in string"
  | outOfRange => "number does not fit in target type"

/-- The value of a decimal digit of ASCII. -/
def digitValue (c : Char) : Nat := c.toNat - '0'.toNat

/-- Whether an integer has a 64-bit form. -/
def fits64 (n : Int) : Bool := -(twoPow 63 : Int) ≤ n && n < twoPow 63

/-- Reads digits one by one after what has been read of a number so far. The first digit that is
none or that leads out of the range decides. -/
def readDigits (negative : Bool) : Int → Text → Except IntegerFault Int
  | n, [] => .ok n
  | n, c :: rest =>
    if ¬c.isDigit then .error .badDigit
    else
      let next := if negative then 10 * n - digitValue c else 10 * n + digitValue c
      if fits64 next then readDigits negative next rest else .error .outOfRange

/-- Reads an integer: an optional sign and at least one digit. -/
def readInteger (t : Text) : Except IntegerFault Int64 :=
  let digits (negative : Bool) (rest : Text) : Except IntegerFault Int64 :=
    if rest = [] then .error .badDigit
    else (readDigits negative 0 rest).map Int64.ofInt
  match t with
  | [] => .error .empty
  | '-' :: rest => digits true rest
  | '+' :: rest => digits false rest
  | rest => digits false rest

/-! ## Numbers in double precision -/

/-- Why a text is no number. -/
inductive NumberFault where
  | empty
  | malformed
deriving DecidableEq, Repr

/-- What is said about a text that is no number. -/
def NumberFault.message : NumberFault → Text
  | empty => "cannot parse float from empty string"
  | malformed => "invalid float literal"

/-- The ASCII digits at the beginning of a text, and the rest. -/
def spanDigits (t : Text) : Text × Text := t.span Char.isDigit

/-- The value of a run of digits. -/
def ofDigits (digits : Text) : Nat := digits.foldl (fun n c => 10 * n + digitValue c) 0

/-- Reads the exponent at the end of a number: nothing at all, or `e`, an optional sign and at
least one digit. -/
def readExponent : Text → Option Int
  | [] => some 0
  | c :: rest =>
    if c ≠ 'e' ∧ c ≠ 'E' then none
    else
      let value (negative : Bool) (digits : Text) : Option Int :=
        if digits ≠ [] ∧ digits.all Char.isDigit then
          some (if negative then -(ofDigits digits : Int) else ofDigits digits)
        else none
      match rest with
      | '-' :: digits => value true digits
      | '+' :: digits => value false digits
      | digits => value false digits

/-- Reads digits with an optional point and an optional exponent; at least one digit has to
stand before the exponent. -/
def readUnsigned (negative : Bool) (t : Text) : Option Double :=
  let (whole, rest) := spanDigits t
  let (fraction, rest) := match rest with
    | '.' :: after => spanDigits after
    | _ => ([], rest)
  if whole = [] ∧ fraction = [] then none
  else (readExponent rest).map fun e =>
    Double.ofDecimal negative (ofDigits (whole ++ fraction)) (e - fraction.length)

/-- The numbers that have names instead of digits. -/
def named? (negative : Bool) (t : Text) : Option Double :=
  let name := Text.lowerAscii t
  if name = "nan".toList then some (Double.notANumber negative)
  else if name = "inf".toList ∨ name = "infinity".toList then some (Double.infinity negative)
  else none

/-- Reads a number: an optional sign, then a name or digits. -/
def readNumber (t : Text) : Except NumberFault Double :=
  let value (negative : Bool) (rest : Text) : Except NumberFault Double :=
    match (named? negative rest).or (readUnsigned negative rest) with
    | some x => .ok x
    | none => .error .malformed
  match t with
  | [] => .error .empty
  | '-' :: rest => value true rest
  | '+' :: rest => value false rest
  | rest => value false rest

end FeatureDoc.Decimal
