/-
# Reading JSON documents

The reader goes through a text character by character and keeps the place it has come to as a
line and a number of bytes on that line. The first thing that does not fit stops it; a fault is
placed either where the reader stands or one byte further, at the character it looks at.
-/
import FeatureDoc.Json.Basic
import FeatureDoc.Decimal.Reader

namespace FeatureDoc.Json

/-! ## Faults and places -/

/-- Why a text is no JSON document. -/
inductive Fault where
  | endInValue
  | endInList
  | endInObject
  | endInString
  | expectedValue
  | expectedWord
  | invalidNumber
  | numberOutOfRange
  | trailingCharacters
  | trailingComma
  | expectedListEnd
  | expectedObjectEnd
  | expectedColon
  | keyNotString
  | invalidEscape
  | loneSurrogate
  | endInPair
  | controlCharacter
  | tooDeep
deriving DecidableEq, Repr

/-- What is said about a fault. -/
def Fault.message : Fault → Text
  | endInValue => "EOF while parsing a value"
  | endInList => "EOF while parsing a list"
  | endInObject => "EOF while parsing an object"
  | endInString => "EOF while parsing a string"
  | expectedValue => "expected value"
  | expectedWord => "expected ident"
  | invalidNumber => "invalid number"
  | numberOutOfRange => "number out of range"
  | trailingCharacters => "trailing characters"
  | trailingComma => "trailing comma"
  | expectedListEnd => "expected `,` or `]`"
  | expectedObjectEnd => "expected `,` or `\x7d`"
  | expectedColon => "expected `:`"
  | keyNotString => "key must be a string"
  | invalidEscape => "invalid escape"
  | loneSurrogate => "lone leading surrogate in hex escape"
  | endInPair => "unexpected end of hex escape"
  | controlCharacter => "control character (\\u0000-\\u001F) found while parsing a string"
  | tooDeep => "recursion limit exceeded"

/-- A place in a text: the line, counted from one, and the bytes before the place on it. -/
structure Place where
  line : Nat
  column : Nat
deriving DecidableEq, Repr

/-- A fault and its place. -/
structure ReadError where
  fault : Fault
  place : Place
deriving DecidableEq, Repr

/-- What is said about a fault at a place. -/
def ReadError.message (e : ReadError) : Text :=
  e.fault.message ++ " at line " ++ Text.ofNat e.place.line ++ " column " ++
    Text.ofNat e.place.column

/-- The place some bytes further on in a text. -/
def Place.skip (p : Place) : Nat → Text → Place
  | 0, _ | _, [] => p
  | n + 1, c :: rest =>
    if c = '\n' then Place.skip ⟨p.line + 1, 0⟩ n rest
    else if c.utf8Size ≤ n + 1 then
      Place.skip { p with column := p.column + c.utf8Size } (n + 1 - c.utf8Size) rest
    else { p with column := p.column + (n + 1) }
termination_by _ t => t.length

/-- What is still to be read, and the place where it begins. -/
structure Cursor where
  rest : Text
  place : Place

namespace Cursor

/-- The beginning of a text. -/
def start (t : Text) : Cursor := ⟨t, ⟨1, 0⟩⟩

/-- A cursor past its next character, which is `c`. -/
def past (c : Char) (rest : Text) (p : Place) : Cursor :=
  ⟨rest, if c = '\n' then ⟨p.line + 1, 0⟩ else { p with column := p.column + c.utf8Size }⟩

/-- The next character and the cursor past it. -/
def next? (cur : Cursor) : Option (Char × Cursor) :=
  match cur.rest with
  | [] => none
  | c :: rest => some (c, past c rest cur.place)

/-- The next character. -/
def peek? (cur : Cursor) : Option Char := cur.rest.head?

/-- A fault where the reader stands. -/
def failHere {α : Type} (cur : Cursor) (fault : Fault) : Except ReadError α :=
  .error ⟨fault, cur.place⟩

/-- A fault one byte further, at the character that the reader looks at. -/
def failAhead {α : Type} (cur : Cursor) (fault : Fault) : Except ReadError α :=
  .error ⟨fault, cur.place.skip 1 cur.rest⟩

/-- A cursor past the blanks of JSON and the rest after them. -/
def skipBlanksFrom (p : Place) : Text → Cursor
  | [] => ⟨[], p⟩
  | c :: rest =>
    if c = ' ' ∨ c = '\n' ∨ c = '\t' ∨ c = '\r' then
      skipBlanksFrom (past c rest p).place rest
    else ⟨c :: rest, p⟩

/-- A cursor past the blanks of JSON. -/
def skipBlanks (cur : Cursor) : Cursor := skipBlanksFrom cur.place cur.rest

/-- Passes over the ASCII digits that come next. -/
def takeDigits (cur : Cursor) : Text × Cursor :=
  let (digits, rest) := Decimal.spanDigits cur.rest
  (digits, ⟨rest, { cur.place with column := cur.place.column + digits.length }⟩)

end Cursor

/-! ## Words and numbers -/

/-- Reads the rest of a word; a character that differs is passed by one byte. -/
def readWord (cur : Cursor) : Text → Except ReadError Cursor
  | [] => .ok cur
  | expected :: more =>
    match cur.next? with
    | none => cur.failHere .endInValue
    | some (c, after) => if c = expected then readWord after more else cur.failAhead .expectedWord

/-- Takes up digits into a number as long as it has a 64-bit form without sign; what is left are
the digits that were not taken up. -/
def takeUp : Nat → Text → Nat × Text
  | n, [] => (n, [])
  | n, c :: rest =>
    let next := 10 * n + Decimal.digitValue c
    if next < twoPow 64 then takeUp next rest else (n, c :: rest)

/-- The magnitude of a finite number as a ratio. -/
def ratioOf (x : Double) : Nat × Nat :=
  match x.decode with
  | .finite _ mantissa exponent => Double.ratio mantissa exponent
  | _ => (0, 1)

/-- The double-precision power of ten with the given exponent. -/
def powerOfTen (e : Nat) : Double := Double.ofRatio false (tenPow e) 1

/-- A number times a power of ten, in one rounding when the power has a double-precision form.
Smaller powers are taken in steps of `1e308`; the third step leaves nothing but zero. No number
comes out when the product is beyond all finite ones. -/
def scale : Nat → Double → Int → Option Double
  | 0, x, _ => some x
  | steps + 1, x, e =>
    let (num, den) := ratioOf x
    if e.natAbs ≤ 308 then
      let (p, q) := ratioOf (powerOfTen e.natAbs)
      if 0 ≤ e then
        let y := Double.ofRatio false (num * p) (den * q)
        if y.isFinite then some y else none
      else some (Double.ofRatio false (num * q) (den * p))
    else if x.isZero then some x
    else if 0 ≤ e then none
    else
      let (p, q) := ratioOf (powerOfTen 308)
      scale steps (Double.ofRatio false (num * q) (den * p)) (e + 308)

/-- The number with the digits taken up and the exponent of the last of them. -/
def scaled (cur : Cursor) (negative : Bool) (digits : Nat) (e : Int) :
    Except ReadError (Number × Cursor) :=
  match scale 4 (Double.ofRatio false digits 1) e with
  | none => cur.failHere .numberOutOfRange
  | some x => .ok (.double (Double.ofMagnitude negative x.bits.toNat), cur)

/-- Takes up the digits of an exponent as long as it has a 32-bit form; an exponent that has
none leaves the cursor past the digit at which it lost it. -/
def takeExponent (cur : Cursor) (n : Nat) : Text → Except Cursor (Nat × Cursor)
  | [] => .ok (n, cur)
  | c :: rest =>
    let after : Cursor := ⟨cur.rest.drop 1, { cur.place with column := cur.place.column + 1 }⟩
    let next := 10 * n + Decimal.digitValue c
    if next < twoPow 31 then takeExponent after next rest else .error after

/-- Reads an exponent from its `e` on. -/
def readExponent (cur : Cursor) (negative : Bool) (digits : Nat) (e : Int) :
    Except ReadError (Number × Cursor) :=
  let body := match cur.next? with
    | some (_, after) => after
    | none => cur
  let (down, body) := match body.next? with
    | some ('-', after) => (true, after)
    | some ('+', after) => (false, after)
    | _ => (false, body)
  match body.peek? with
  | none => body.failHere .endInValue
  | some c =>
    if ¬c.isDigit then body.failAhead .invalidNumber
    else
      match takeExponent body 0 (Decimal.spanDigits body.rest).1 with
      | .ok (n, after) => scaled after negative digits (if down then e - n else e + n)
      | .error after =>
        if digits ≠ 0 ∧ ¬down then after.failHere .numberOutOfRange
        else .ok (.double (Double.ofMagnitude negative 0), after.takeDigits.2)

/-- Reads a fraction from its point on; digits that no longer fit count for nothing. -/
def readFraction (cur : Cursor) (negative : Bool) (digits : Nat) (e : Int) :
    Except ReadError (Number × Cursor) :=
  let body := match cur.next? with
    | some (_, after) => after
    | none => cur
  let (fraction, after) := body.takeDigits
  if fraction = [] then
    match body.peek? with
    | none => body.failAhead .endInValue
    | some _ => body.failAhead .invalidNumber
  else
    let (digits, left) := takeUp digits fraction
    let e := e - (fraction.length - left.length : Nat)
    if after.peek? = some 'e' ∨ after.peek? = some 'E' then readExponent after negative digits e
    else scaled after negative digits e

/-- An integer without point and exponent: it stays an integer if it has a 64-bit form, and
negative zero does not. -/
def integerOrDouble (negative : Bool) (digits : Nat) : Number :=
  if ¬negative then .integer digits
  else if 0 < digits ∧ digits ≤ twoPow 63 then .integer (-(digits : Int))
  else .double (Double.ofRatio true digits 1)

/-- Reads a number whose sign has been passed. A zero is followed by no other digit; whole digits
that no longer fit count as powers of ten. -/
def readNumber (cur : Cursor) (negative : Bool) : Except ReadError (Number × Cursor) :=
  match cur.peek? with
  | none => cur.failHere .endInValue
  | some c =>
    if ¬c.isDigit then cur.failAhead .invalidNumber
    else
      let (whole, after) := cur.takeDigits
      if c = '0' ∧ 1 < whole.length then
        .error ⟨.invalidNumber, cur.place.skip 2 cur.rest⟩
      else
        let (digits, left) := takeUp 0 whole
        if after.peek? = some '.' then readFraction after negative digits left.length
        else if after.peek? = some 'e' ∨ after.peek? = some 'E' then
          readExponent after negative digits left.length
        else if left = [] then .ok (integerOrDouble negative digits, after)
        else scaled after negative digits left.length

/-! ## Strings -/

/-- The value of a hexadecimal digit. -/
def hexValue? (c : Char) : Option Nat :=
  if c.isDigit then some (c.toNat - '0'.toNat)
  else if 'a' ≤ c ∧ c ≤ 'f' then some (c.toNat - 'a'.toNat + 10)
  else if 'A' ≤ c ∧ c ≤ 'F' then some (c.toNat - 'A'.toNat + 10)
  else none

/-- Reads the four bytes of an escape in hexadecimal digits. -/
def readHex4 (cur : Cursor) : Except ReadError (Nat × Cursor) :=
  let bytes := Text.byteSize cur.rest
  if bytes < 4 then .error ⟨.endInString, cur.place.skip bytes cur.rest⟩
  else
    let wrong : Except ReadError (Nat × Cursor) :=
      .error ⟨.invalidEscape, cur.place.skip 4 cur.rest⟩
    match cur.rest with
    | a :: b :: c :: d :: rest =>
      match hexValue? a, hexValue? b, hexValue? c, hexValue? d with
      | some a, some b, some c, some d =>
        .ok (((a * 16 + b) * 16 + c) * 16 + d,
          ⟨rest, { cur.place with column := cur.place.column + 4 }⟩)
      | _, _, _, _ => wrong
    | _ => wrong

/-- Passes over the given character; a string that ends here or goes on otherwise is at fault. -/
def expectInPair (cur : Cursor) (expected : Char) : Except ReadError Cursor :=
  match cur.next? with
  | none => cur.failHere .endInString
  | some (c, after) => if c = expected then .ok after else cur.failAhead .endInPair

/-- Reads an escape of four hexadecimal digits, and the second half of a pair of surrogates. -/
def readUnicodeEscape (cur : Cursor) : Except ReadError (Char × Cursor) := do
  let (n, cur) ← readHex4 cur
  if 0xDC00 ≤ n ∧ n ≤ 0xDFFF then cur.failHere .loneSurrogate
  else if n < 0xD800 ∨ 0xDBFF < n then .ok (Char.ofNat n, cur)
  else
    let cur ← expectInPair cur '\\'
    let cur ← expectInPair cur 'u'
    let (m, cur) ← readHex4 cur
    if m < 0xDC00 ∨ 0xDFFF < m then cur.failHere .loneSurrogate
    else .ok (Char.ofNat ((n - 0xD800) * 0x400 + (m - 0xDC00) + 0x10000), cur)

/-- Reads what follows a backslash. -/
def readEscape (cur : Cursor) : Except ReadError (Char × Cursor) :=
  match cur.next? with
  | none => cur.failHere .endInString
  | some (c, after) =>
    match c with
    | '"' => .ok ('"', after)
    | '\\' => .ok ('\\', after)
    | '/' => .ok ('/', after)
    | 'b' => .ok ('\x08', after)
    | 'f' => .ok ('\x0c', after)
    | 'n' => .ok ('\n', after)
    | 'r' => .ok ('\r', after)
    | 't' => .ok ('\t', after)
    | 'u' => readUnicodeEscape after
    | _ => cur.failAhead .invalidEscape

/-- Reads a string up to its closing quote; `fuel` bounds the characters of the string. -/
def readString : Nat → Text → Cursor → Except ReadError (Text × Cursor)
  | 0, _, cur => cur.failHere .endInString
  | fuel + 1, read, cur =>
    match cur.next? with
    | none => cur.failHere .endInString
    | some (c, after) =>
      if c = '"' then .ok (read.reverse, after)
      else if c = '\\' then do
        let (d, after) ← readEscape after
        readString fuel (d :: read) after
      else if c.toNat < 32 then after.failHere .controlCharacter
      else readString fuel (c :: read) after

/-- Reads a string whose opening quote has been passed. -/
def stringBody (cur : Cursor) : Except ReadError (Text × Cursor) :=
  readString (cur.rest.length + 1) [] cur

/-! ## Documents -/

mutual

/-- Reads a value. `depth` counts the arrays and objects that may still be opened, and `fuel`
bounds the calls. -/
def readValue (fuel depth : Nat) (cur : Cursor) : Except ReadError (Json × Cursor) :=
  let cur := cur.skipBlanks
  match fuel, cur.next? with
  | 0, _ | _, none => cur.failAhead .endInValue
  | fuel + 1, some (c, after) =>
    match c with
    | 'n' => do return (.null, ← readWord after "ull".toList)
    | 't' => do return (.bool true, ← readWord after "rue".toList)
    | 'f' => do return (.bool false, ← readWord after "alse".toList)
    | '"' => do
      let (t, cur) ← stringBody after
      return (.string t, cur)
    | '-' => do
      let (n, cur) ← readNumber after true
      return (.number n, cur)
    | '[' =>
      if depth ≤ 1 then cur.failAhead .tooDeep
      else do
        let (items, cur) ← readItems fuel (depth - 1) true after
        return (.array items, cur)
    | '{' =>
      if depth ≤ 1 then cur.failAhead .tooDeep
      else do
        let (fields, cur) ← readFields fuel (depth - 1) true [] after
        return (.object fields, cur)
    | _ =>
      if c.isDigit then do
        let (n, cur) ← readNumber cur false
        return (.number n, cur)
      else cur.failAhead .expectedValue
termination_by structural fuel

/-- Reads the items of an array up to its closing bracket. -/
def readItems (fuel depth : Nat) (first : Bool) (cur : Cursor) :
    Except ReadError (List Json × Cursor) :=
  let cur := cur.skipBlanks
  match fuel, cur.next? with
  | 0, _ | _, none => cur.failAhead .endInList
  | fuel + 1, some (c, after) =>
    let item (cur : Cursor) : Except ReadError (List Json × Cursor) := do
      let (value, cur) ← readValue fuel depth cur
      let (more, cur) ← readItems fuel depth false cur
      return (value :: more, cur)
    if c = ']' then .ok ([], after)
    else if first then item cur
    else if c = ',' then
      let cur := after.skipBlanks
      match cur.peek? with
      | none => cur.failAhead .endInValue
      | some c => if c = ']' then cur.failAhead .trailingComma else item cur
    else cur.failAhead .expectedListEnd
termination_by structural fuel

/-- Reads the fields of an object up to its closing brace. -/
def readFields (fuel depth : Nat) (first : Bool) (read : List (Text × Json)) (cur : Cursor) :
    Except ReadError (List (Text × Json) × Cursor) :=
  let cur := cur.skipBlanks
  match fuel, cur.next? with
  | 0, _ | _, none => cur.failAhead .endInObject
  | fuel + 1, some (c, after) =>
    -- a field from its opening quote on
    let field (cur : Cursor) : Except ReadError (List (Text × Json) × Cursor) := do
      let body := match cur.next? with
        | some (_, after) => after
        | none => cur
      let (name, cur) ← stringBody body
      let cur := cur.skipBlanks
      match cur.next? with
      | none => cur.failAhead .endInObject
      | some (colon, after) =>
        if colon ≠ ':' then cur.failAhead .expectedColon
        else do
          let (value, cur) ← readValue fuel depth after
          readFields fuel depth false (Dictionary.insert name value read) cur
    if c = '}' then .ok (read, after)
    else if first then
      if c = '"' then field cur else cur.failAhead .keyNotString
    else if c = ',' then
      let cur := after.skipBlanks
      match cur.peek? with
      | none => cur.failAhead .endInValue
      | some '"' => field cur
      | some '}' => cur.failAhead .trailingComma
      | some _ => cur.failAhead .keyNotString
    else cur.failAhead .expectedObjectEnd
termination_by structural fuel

end

/-- Arrays and objects may be nested one level less than this. -/
def depthLimit : Nat := 128

/-- Reads a document: one value with nothing but blanks around it. -/
def read (t : Text) : Except ReadError Json := do
  let (value, cur) ← readValue (2 * t.length + 2) depthLimit (Cursor.start t)
  let cur := cur.skipBlanks
  match cur.peek? with
  | none => return value
  | some _ => cur.failAhead .trailingCharacters

end FeatureDoc.Json
