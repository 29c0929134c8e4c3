/-
# Pieces of a pattern

A pattern is written as literal text with placeholders in braces, `{name}` or `{name:hint}`.
Doubled braces stand for one brace, and a backslash makes the next character literal. Reading
cuts the written form into pieces; `write` puts pieces into the written form.
-/
import FeatureDoc.Text.Word

namespace FeatureDoc.Pattern

/-- A piece of a pattern. -/
inductive Piece where
  | literal (t : Text)
  | placeholder (name : Text) (hint : Option Text)
deriving DecidableEq, Repr

/-- Why a text is no pattern. Positions are bytes from its beginning. -/
inductive Error where
  /-- A placeholder is opened and never closed. -/
  | unclosed (position : Nat)
  /-- A closing brace closes nothing. -/
  | strayBrace (position : Nat)
  /-- A placeholder has no proper name. -/
  | invalidName (name : Text) (position : Nat)
  /-- The hint of a placeholder is not known. -/
  | unknownHint (name hint : Text)
  /-- Two placeholders have one name. -/
  | duplicateName (name : Text)
deriving DecidableEq, Repr

/-- What is said about a text that is no pattern. -/
def Error.message : Error → Text
  | unclosed position =>
    "missing closing '\x7d' for placeholder at byte " ++ Text.ofNat position
  | strayBrace position => "unmatched closing brace '\x7d' at byte " ++ Text.ofNat position
  | invalidName name position =>
    "invalid placeholder name `" ++ name ++ "` at byte " ++ Text.ofNat position
  | unknownHint name hint =>
    "unknown type hint `" ++ hint ++ "` for placeholder `" ++ name ++ "`"
  | duplicateName name => "placeholder `" ++ name ++ "` appears more than once"

/-- Whether a text has braces and so has to be read as a pattern. -/
def isPattern (t : Text) : Bool := t.any fun c => c = '{' || c = '}'

/-! ## Reading -/

/-- The name and the hint in the body of a placeholder. -/
def splitBody (body : Text) : Text × Option Text :=
  match Text.cutAt? ':' body with
  | some (name, hint) => (name, some hint)
  | none => (body, none)

/-- The placeholder whose opening brace stands at a position right before a text, and its body. -/
def placeholderAfter (position : Nat) (t : Text) : Except Error (Piece × Text) :=
  match Text.cutAt? '}' t with
  | none => .error (.unclosed position)
  | some (body, _) =>
    let (name, hint) := splitBody body
    if Text.isName name then .ok (.placeholder name hint, body)
    else .error (.invalidName name position)

/-- Pieces after a literal, given backwards; an empty literal is no piece. -/
def afterLiteral (backwards : Text) (pieces : List Piece) : List Piece :=
  if backwards = [] then pieces else .literal backwards.reverse :: pieces

/-- The pieces of the rest of a pattern. The arguments are the number of characters that have
been taken already, the position, and the literal read so far, backwards. -/
def piecesFrom : Nat → Nat → Text → Text → Except Error (List Piece)
  | _, _, literal, [] => .ok (afterLiteral literal [])
  | taken + 1, position, literal, c :: rest =>
    piecesFrom taken (position + c.utf8Size) literal rest
  | 0, position, literal, c :: rest =>
    let next := position + c.utf8Size
    if c = '\\' then
      match rest with
      | [] => piecesFrom 0 next (c :: literal) rest
      | d :: _ => piecesFrom 1 next (d :: literal) rest
    else if (c = '{' ∨ c = '}') ∧ rest.head? = some c then piecesFrom 1 next (c :: literal) rest
    else if c = '{' then
      match placeholderAfter position rest with
      | .error e => .error e
      | .ok (piece, body) =>
        (piecesFrom (body.length + 1) next [] rest).map fun more =>
          afterLiteral literal (piece :: more)
    else if c = '}' then .error (.strayBrace position)
    else piecesFrom 0 next (c :: literal) rest

/-- The pieces of a pattern. -/
def pieces (t : Text) : Except Error (List Piece) := piecesFrom 0 0 [] t

/-! ## Writing -/

/-- A character of a literal: braces and backslashes are doubled. -/
def writeChar (c : Char) : Text := if c = '{' ∨ c = '}' ∨ c = '\\' then [c, c] else [c]

/-- A piece as it is written. -/
def Piece.write : Piece → Text
  | literal t => t.flatMap writeChar
  | placeholder name none => '{' :: name ++ ['}']
  | placeholder name (some hint) => '{' :: name ++ ':' :: hint ++ ['}']

/-- Pieces as they are written. -/
def write (ps : List Piece) : Text := ps.flatMap Piece.write

end FeatureDoc.Pattern
