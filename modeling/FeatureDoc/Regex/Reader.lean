/-
# Reading regular expressions

The reader takes an expression from its written form: literal characters, classes, groups,
alternatives, repetitions, assertions and flags. A text that is no expression yields none.
-/
import FeatureDoc.Regex.Basic
import FeatureDoc.Regex.CharClass

namespace FeatureDoc.Regex

/-! ## Blanks between parts -/

/-- A text from the end of its first line on. -/
def afterLine (t : Text) : Text := (t.dropWhile (· ≠ '\n')).drop 1

/-- A text without the blanks and comments at its beginning; there are at most as many comments
as the given number. -/
def dropComments : Nat → Text → Text
  | 0, t => Text.trimStart t
  | n + 1, t =>
    match Text.trimStart t with
    | '#' :: rest => dropComments n (afterLine rest)
    | other => other

/-- A text without what means nothing at its beginning. -/
def skipSpace (f : Flags) (t : Text) : Text := if f.spaced then dropComments t.length t else t

/-! ## Assertions -/

/-- Whether a place is at the beginning of a text, or of a line if lines count. -/
def atStart (f : Flags) (p : Place) : Bool :=
  match p.before with
  | none => true
  | some '\n' => f.byLine
  | some '\r' => f.byLine && f.returns && p.rest.head? ≠ some '\n'
  | some _ => false

/-- Whether a place is at the end of a text, or of a line if lines count. -/
def atEnd (f : Flags) (p : Place) : Bool :=
  match p.rest with
  | [] => true
  | '\n' :: _ => f.byLine && !(f.returns && p.before = some '\r')
  | '\r' :: _ => f.byLine && f.returns
  | _ :: _ => false

/-- Whether the character before a place is in a class. -/
def isAfter (w : CharClass) (p : Place) : Bool := p.before.any w

/-- Whether the character that follows a place is in a class. -/
def isBefore (w : CharClass) (p : Place) : Bool := p.rest.head?.any w

/-- The assertions about words that have names. -/
def wordAssertions (w : CharClass) : List (String × (Place → Bool)) := [
  ("start", fun p => !isAfter w p && isBefore w p),
  ("end", fun p => isAfter w p && !isBefore w p),
  ("start-half", fun p => !isAfter w p),
  ("end-half", fun p => !isBefore w p)]

/-- Whether a place is where a word begins or ends. -/
def atEdge (w : CharClass) (p : Place) : Bool := isAfter w p != isBefore w p

/-! ## Escapes -/

/-- What an escape or a character stands for. -/
inductive Atom where
  | char (c : Char)
  | charClass (p : CharClass)
  | assertion (holds : Place → Bool)

/-- The characters that mean something unless they are escaped. -/
def metaChars : List Char := "\\.+*?()|[]\x7b\x7d^$#&-~".toList

/-- Whether an escape of a character stands for the character itself. -/
def isEscapable (c : Char) : Bool :=
  c ∈ metaChars || (c.toNat < 128 && !c.isAlphanum && c ≠ '<' && c ≠ '>')

/-- The control characters that have escapes. -/
def controlEscapes : List (Char × Char) :=
  [('a', '\x07'), ('f', '\x0c'), ('t', '\t'), ('n', '\n'), ('r', '\r'), ('v', '\x0b')]

/-- Whether a character is a hexadecimal digit. -/
def isHexDigit (c : Char) : Bool := c.isDigit || ('a' ≤ c.toLower && c.toLower ≤ 'f')

/-- The value of a hexadecimal digit. -/
def hexValue (c : Char) : Nat :=
  if c.isDigit then c.toNat - '0'.toNat else c.toLower.toNat - 'a'.toNat + 10

/-- The character whose code point hexadecimal digits write. -/
def hexChar? (digits : Text) : Option Char :=
  let code := digits.foldl (fun n c => 16 * n + hexValue c) 0
  if digits ≠ [] ∧ digits.all isHexDigit ∧ code.isValidChar then some (Char.ofNat code) else none

/-- The number of hexadecimal digits after the letter of an escape. -/
def hexLength? : Char → Option Nat
  | 'x' => some 2
  | 'u' => some 4
  | 'U' => some 8
  | _ => none

/-- Reads hexadecimal digits: those between braces, or else the given number of them. -/
def readHex (length : Nat) : Text → Option (Char × Text)
  | '\x7b' :: t => do
    let (digits, rest) ← Text.cutAt? '\x7d' t
    return (← hexChar? digits, rest)
  | t => do
    let digits := t.take length
    if digits.length = length then return (← hexChar? digits, t.drop length) else none

/-- The class of digits, blanks or word characters that a letter stands for; a capital letter
stands for the characters outside it. Without the classes of all scripts there is nothing
outside that could be found in a text. -/
def letterClass? (f : Flags) (c : Char) : Option CharClass :=
  let named : Option CharClass := match c.toLower with
    | 'd' => some (CharClass.digit f.unicode)
    | 's' => some (CharClass.space f.unicode)
    | 'w' => some (CharClass.word f.unicode)
    | _ => none
  if c.isUpper then if f.unicode then named.map CharClass.compl else none else named

/-- Reads the name of a property of characters, or its only letter. -/
def readProperty (f : Flags) (negated : Bool) (t : Text) : Option (CharClass × Text) := do
  let (name, rest) ← match t with
    | '\x7b' :: t => Text.cutAt? '\x7d' t
    | c :: t => some ([c], t)
    | [] => none
  let (negated, name) := match name with
    | '^' :: name => (!negated, name)
    | _ => (negated, name)
  let p := CharClass.under (← CharClass.ofProperty? name) f
  if f.unicode then return (if negated then p.compl else p, rest) else none

/-- Reads the name of an assertion about words between braces. -/
def readWordAssertion (w : CharClass) : Text → Option ((Place → Bool) × Text)
  | '\x7b' :: t => do
    let (name, rest) ← Text.cutAt? '\x7d' t
    return (← (wordAssertions w).lookup (String.ofList name), rest)
  | _ => none

/-- Reads what follows a backslash. -/
def readEscape (f : Flags) : Text → Option (Atom × Text)
  | [] => none
  | c :: rest =>
    let w := CharClass.word f.unicode
    match hexLength? c with
    | some length => (readHex length rest).map fun (c, rest) => (.char c, rest)
    | none =>
      match letterClass? f c with
      | some p => some (.charClass p, rest)
      | none =>
        if c = 'p' ∨ c = 'P' then
          (readProperty f (c = 'P') rest).map fun (p, rest) => (.charClass p, rest)
        else if isEscapable c then some (.char c, rest)
        else match controlEscapes.lookup c with
          | some control => some (.char control, rest)
          | none =>
            match c with
            | 'A' => some (.assertion fun p => p.before.isNone, rest)
            | 'z' => some (.assertion fun p => p.rest.isEmpty, rest)
            | 'B' => some (.assertion fun p => !atEdge w p, rest)
            | '<' => some (.assertion fun p => !isAfter w p && isBefore w p, rest)
            | '>' => some (.assertion fun p => isAfter w p && !isBefore w p, rest)
            | 'b' =>
              match readWordAssertion w rest with
              | some (holds, rest) => some (.assertion holds, rest)
              | none => some (.assertion (atEdge w), rest)
            | _ => none

/-! ## Classes in brackets -/

/-- Reads a character or an escape in a class. -/
def readClassAtom (f : Flags) : Text → Option (Atom × Text)
  | [] => none
  | '\\' :: rest => readEscape f rest
  | c :: rest => some (.char c, rest)

/-- The class of an atom; assertions are none. -/
def Atom.class? (f : Flags) : Atom → Option CharClass
  | char c => some (CharClass.under (CharClass.range c c) f)
  | charClass p => some p
  | assertion _ => none

/-- Reads an item of a class: an atom, or a range from a character to another. A hyphen before the
end of the class or before another hyphen makes no range. -/
def readClassItem (f : Flags) (t : Text) : Option (CharClass × Text) := do
  let (first, rest) ← readClassAtom f t
  match skipSpace f rest with
  | '-' :: after =>
    let next := (skipSpace f after).head?
    if next = some ']' ∨ next = some '-' then return (← first.class? f, skipSpace f rest)
    else
      let (last, rest) ← readClassAtom f (skipSpace f after)
      match first, last with
      | .char a, .char b =>
        if a ≤ b then return (CharClass.under (CharClass.range a b) f, rest) else none
      | _, _ => none
  | [] => none
  | rest => return (← first.class? f, rest)

/-- Reads a class of ASCII that is written by its name between colons. -/
def readNamedClass (f : Flags) (t : Text) : Option (CharClass × Text) := do
  let body ← Text.after? "[:" t
  let (name, rest) ← Text.cutAt? ':' body
  let rest ← Text.after? "]" rest
  match name with
  | '^' :: name => return ((CharClass.under (← CharClass.ofAsciiName? name) f).compl, rest)
  | _ => return (CharClass.under (← CharClass.ofAsciiName? name) f, rest)

/-- What joins two parts of a class. -/
inductive ClassOperator where
  | intersection
  | difference
  | symmetricDifference

/-- The class of the characters that two parts of a class have together. -/
def ClassOperator.apply (o : ClassOperator) (p q : CharClass) : CharClass := fun c =>
  match o with
  | intersection => p c && q c
  | difference => p c && !q c
  | symmetricDifference => p c != q c

/-- Reads an operator between two parts of a class. -/
def readClassOperator : Text → Option (ClassOperator × Text)
  | '&' :: '&' :: rest => some (.intersection, rest)
  | '-' :: '-' :: rest => some (.difference, rest)
  | '~' :: '~' :: rest => some (.symmetricDifference, rest)
  | _ => none

/-- What stands at the beginning of a class and means only itself: hyphens, or else a closing
bracket. -/
def readClassStart (f : Flags) (t : Text) : CharClass × Text :=
  match t with
  | ']' :: rest => (CharClass.under (CharClass.range ']' ']') f, rest)
  | '-' :: _ => (CharClass.range '-' '-', t.dropWhile (· = '-'))
  | _ => (fun _ => false, t)

/-- The part of a class that has been read, after the operator before it. -/
def finishPart (left : Option (CharClass × ClassOperator)) (p : CharClass) : CharClass :=
  match left with
  | none => p
  | some (q, o) => o.apply q p

/-- Reads a class up to its closing bracket: what is left of the last operator, the items after
it, and the rest. The number bounds the parts that are read. -/
def readClass (f : Flags) : Nat → Option (CharClass × ClassOperator) → CharClass → Text →
    Option (CharClass × Text)
  | 0, _, _, _ => none
  | n + 1, left, items, t =>
    match skipSpace f t with
    | [] => none
    | ']' :: rest => some (finishPart left items, rest)
    | '[' :: rest =>
      match readNamedClass f ('[' :: rest) with
      | some (p, rest) => readClass f n left (fun c => items c || p c) rest
      | none =>
        let rest := skipSpace f rest
        let negated := rest.head? = some '^'
        let (start, body) := readClassStart f (if negated then skipSpace f rest.tail else rest)
        match readClass f n none start body with
        | none => none
        | some (p, rest) =>
          let p := if negated then p.compl else p
          readClass f n left (fun c => items c || p c) rest
    | rest =>
      match readClassOperator rest with
      | some (o, rest) =>
        readClass f n (some (finishPart left items, o)) (fun _ => false) rest
      | none =>
        match readClassItem f rest with
        | none => none
        | some (p, rest) => readClass f n left (fun c => items c || p c) rest

/-- Reads what follows the opening bracket of a class. Without the classes of all scripts a
negated class has no meaning. -/
def readBrackets (f : Flags) (t : Text) : Option (CharClass × Text) := do
  let t := skipSpace f t
  let negated := t.head? = some '^'
  let (start, body) := readClassStart f (if negated then skipSpace f t.tail else t)
  let (p, rest) ← readClass f (body.length + 1) none start body
  if negated then if f.unicode then return (p.compl, rest) else none
  else return (p, rest)

/-! ## Repetitions -/

/-- The greatest number that a repetition can give. -/
def greatestCount : Nat := 4294967295

/-- Reads a number with blanks around it. -/
def readCount (t : Text) : Option (Nat × Text) :=
  let t := Text.trimStart t
  let digits := t.takeWhile Char.isDigit
  let n := digits.foldl (fun n c => 10 * n + (c.toNat - '0'.toNat)) 0
  if digits ≠ [] ∧ n ≤ greatestCount then
    some (n, Text.trimStart (t.dropWhile Char.isDigit))
  else none

/-- Reads the numbers of a repetition up to its closing brace. -/
def readCounts (t : Text) : Option ((Nat × Option Nat) × Text) := do
  let (least, rest) ← readCount t
  match rest with
  | '\x7d' :: rest => return ((least, some least), rest)
  | ',' :: '\x7d' :: rest => return ((least, none), rest)
  | ',' :: rest =>
    let (most, rest) ← readCount rest
    match rest with
    | '\x7d' :: rest => if least ≤ most then return ((least, some most), rest) else none
    | _ => none
  | _ => none

/-- Reads a repetition: how often, and the rest. That it takes as little as it can means nothing
here. -/
def readRepetition (f : Flags) : Text → Option ((Nat × Option Nat) × Text)
  | '*' :: rest => some ((0, none), dropLazy rest)
  | '+' :: rest => some ((1, none), dropLazy rest)
  | '?' :: rest => some ((0, some 1), dropLazy rest)
  | '\x7b' :: rest => (readCounts (skipSpace f rest)).map fun (counts, rest) =>
      (counts, dropLazy (skipSpace f rest))
  | _ => none
where
  /-- A text without a question mark at its beginning. -/
  dropLazy : Text → Text
    | '?' :: rest => rest
    | t => t

/-- Whether a character starts a repetition. -/
def startsRepetition (c : Char) : Bool := c = '*' || c = '+' || c = '?' || c = '\x7b'

/-! ## Groups -/

/-- The flags after one of them has been set; letters that are no flags set nothing. -/
def Flags.set? (f : Flags) (on : Bool) : Char → Option Flags
  | 'i' => some { f with anyCase := on }
  | 'm' => some { f with byLine := on }
  | 's' => some { f with dotAll := on }
  | 'R' => some { f with returns := on }
  | 'x' => some { f with spaced := on }
  | 'u' => some { f with unicode := on }
  | 'U' => some f
  | _ => none

/-- Reads flags up to a colon or a closing parenthesis: the flags, and whether a group follows.
No flag may stand twice, and only flags that follow a hyphen are taken back. -/
def readFlags (f : Flags) (seen : List Char) : Text → Option (Flags × Bool × Text)
  | [] => none
  | ':' :: rest => if seen.head? = some '-' then none else some (f, true, rest)
  | ')' :: rest => if seen = [] ∨ seen.head? = some '-' then none else some (f, false, rest)
  | c :: rest =>
    if c ∈ seen then none
    else if c = '-' then readFlags f ('-' :: seen) rest
    else match f.set? ('-' ∉ seen) c with
      | none => none
      | some f => readFlags f (c :: seen) rest

/-- Whether a text can name a group. -/
def isGroupName : Text → Bool
  | [] => false
  | c :: rest => (Text.isLetter c || c = '_') &&
      rest.all fun c => Text.isWord c || c = '.' || c = '[' || c = ']'

/-- What an opening parenthesis begins. -/
inductive Opening where
  /-- Nothing: it only sets flags. -/
  | flags (f : Flags)
  /-- A group with the given flags and perhaps a name. -/
  | group (f : Flags) (name : Option Text)

/-- Reads what follows an opening parenthesis. -/
def readOpening (f : Flags) (t : Text) : Option (Opening × Text) :=
  let t := skipSpace f t
  match (Text.after? "?P<" t).or (Text.after? "?<" t) with
  | some named => do
    let (name, rest) ← Text.cutAt? '>' named
    if isGroupName name then return (.group f (some name), rest) else none
  | none =>
    match t with
    | '?' :: rest => do
      let (g, isGroup, rest) ← readFlags f [] rest
      return (if isGroup then .group g none else .flags g, rest)
    | _ => some (.group f none, t)

/-! ## Expressions -/

/-- A literal character under flags. -/
def literal (f : Flags) (c : Char) : Regex := one (CharClass.under (CharClass.range c c) f)

/-- The expression of an atom. -/
def ofAtom (f : Flags) : Atom → Regex
  | .char c => literal f c
  | .charClass p => one p
  | .assertion holds => assertion holds

/-- Reads a single part that is no group and no repetition. -/
def readPart (f : Flags) : Text → Option (Regex × Text)
  | [] => none
  | '[' :: rest => (readBrackets f rest).map fun (p, rest) => (one p, rest)
  | '\\' :: rest => (readEscape f rest).map fun (a, rest) => (ofAtom f a, rest)
  | '.' :: rest => if f.unicode then some (one (CharClass.dot f), rest) else none
  | '^' :: rest => some (assertion (atStart f), rest)
  | '$' :: rest => some (assertion (atEnd f), rest)
  | c :: rest => some (literal f c, rest)

/-- What has been read of an expression. -/
structure Partial where
  flags : Flags
  /-- The names of groups. -/
  names : List Text
  /-- The alternatives before the present one, from the last to the first. -/
  before : List Regex
  /-- The parts of the present alternative, from the last to the first. -/
  parts : List Regex
  /-- Whether the last part can be repeated. -/
  repeatable : Bool

namespace Partial

/-- The expression that has been read. -/
def regex (s : Partial) : Regex := oneOf ((sequence s.parts.reverse :: s.before).reverse)

/-- The beginning of an expression. -/
def start (f : Flags) (names : List Text) : Partial :=
  { flags := f, names, before := [], parts := [], repeatable := false }

/-- Adds a part. -/
def push (s : Partial) (r : Regex) : Partial := { s with parts := r :: s.parts, repeatable := true }

/-- Ends the present alternative. -/
def nextAlternative (s : Partial) : Partial :=
  { s with before := sequence s.parts.reverse :: s.before, parts := [], repeatable := false }

/-- Sets flags. -/
def setFlags (s : Partial) (f : Flags) : Partial := { s with flags := f, repeatable := false }

/-- Repeats the last part. -/
def repeatLast? (s : Partial) (least : Nat) (most : Option Nat) : Option Partial :=
  match s.parts with
  | r :: rest =>
    if s.repeatable then some { s with parts := repeated r least most :: rest } else none
  | [] => none

end Partial

/-- Reads an expression up to its end or to a parenthesis that closes a group around it. The number
bounds the parts that are read. -/
def readAll : Nat → Partial → Text → Option (Partial × Text)
  | 0, _, _ => none
  | n + 1, s, t =>
    match skipSpace s.flags t with
    | [] => some (s, [])
    | ')' :: rest => some (s, ')' :: rest)
    | '|' :: rest => readAll n s.nextAlternative rest
    | '(' :: rest =>
      match readOpening s.flags rest with
      | none => none
      | some (.flags f, rest) => readAll n (s.setFlags f) rest
      | some (.group f name, rest) =>
        if name.any (· ∈ s.names) then none
        else match readAll n (.start f (name.toList ++ s.names)) rest with
          | some (inner, ')' :: rest) =>
            readAll n ({ s with names := inner.names }.push inner.regex) rest
          | _ => none
    | c :: rest =>
      if startsRepetition c then
        match readRepetition s.flags (c :: rest) with
        | none => none
        | some ((least, most), rest) =>
          match s.repeatLast? least most with
          | none => none
          | some s => readAll n s rest
      else match readPart s.flags (c :: rest) with
        | none => none
        | some (r, rest) => readAll n (s.push r) rest

/-- The expression that a text writes, if it writes one. -/
def read? (t : Text) : Option Regex :=
  match readAll (t.length + 1) (.start {} []) t with
  | some (s, []) => some s.regex
  | _ => none

end FeatureDoc.Regex
