/-
# Paths

A path consists of bytes, in which slashes stand between names. Names that are empty or a single
dot mean nothing; two dots mean the directory above. Paths are kept as they were written, so that
most operations keep the bytes and only look for the names in them. Most paths are texts, but they
need not be.

* `display_encode` : a path that is a text is shown as it is;
* `text?_eq_some_iff` : and no other path can be given as a text.
-/
import FeatureDoc.Text.Utf8

namespace FeatureDoc

/-- The bytes of a path. -/
abbrev Path := List UInt8

namespace Path

/-! ## Texts -/

/-- A text as a path. -/
instance : Coe Text Path := ⟨Utf8.encode⟩

/-- A path for readers: where there is no character, a mark stands for it. -/
def display (p : Path) : Text := (Utf8.decode p).map fun c => c.getD '\uFFFD'

/-- The text that a path is, if it is one. -/
def text? (p : Path) : Option Text := (Utf8.decode p).mapM id

/-- A path that is a text is shown as it is. -/
@[simp]
theorem display_encode (t : Text) : display (Utf8.encode t) = t := by
  rw [display, Utf8.decode_encode, List.map_map]
  exact List.map_id t

/-- A path can be given as a text exactly if it is this text. -/
theorem text?_eq_some_iff {p : Path} {t : Text} : p.text? = some t ↔ p = Utf8.encode t := by
  rw [← Utf8.decode_eq_map_some_iff, text?]
  generalize Utf8.decode p = cs
  induction cs generalizing t with
  | nil => cases t <;> simp
  | cons c cs ih =>
    cases c with
    | none => cases t <;> simp [List.mapM_cons]
    | some c =>
      rw [List.mapM_cons]
      cases t with
      | nil => cases List.mapM id cs <;> simp
      | cons d t =>
        rw [List.map_cons, List.cons.injEq, ← ih]
        cases List.mapM id cs <;> simp

/-- Where a text is wanted, a path is given as it is shown. -/
instance : Coe Path Text := ⟨display⟩

/-! ## Names -/

/-- The byte between names. -/
def slash : UInt8 := 0x2F

/-- The byte before an extension. -/
def dot : UInt8 := 0x2E

/-- Whether a path starts at the root. -/
def isAbsolute (p : Path) : Bool := p.head? = some slash

/-- Whether a path ends with a slash. -/
def endsOpen (p : Path) : Bool := p.getLast? = some slash

/-- What stands between the slashes of a path. -/
def pieces (p : Path) : List Path := Pieces.splitOn slash p

/-- The name of the directory that a path is in. -/
def here : Path := [dot]

/-- The name of the directory above. -/
def above : Path := [dot, dot]

/-- Whether a piece of a path means something. -/
def isName (piece : Path) : Bool := piece ≠ [] && piece ≠ here

/-- The names in a path. -/
def names (p : Path) : List Path := (pieces p).filter isName

/-- A file in a directory. An absolute path is not changed. -/
def join (base file : Path) : Path :=
  if isAbsolute file then file
  else if base = [] ∨ endsOpen base then base ++ file
  else base ++ slash :: file

/-- Joining leaves an absolute path as it is, whatever the directory. -/
theorem join_of_isAbsolute {file : Path} (h : isAbsolute file = true) (base : Path) :
    join base file = file := by
  simp [join, h]

/-! ## The last name -/

/-- The last name of a path, unless it is that of the directory above. -/
def fileName? (p : Path) : Option Path := (names p).getLast?.filter fun name => name ≠ above

/-- Whether a piece stands for a place: a name does, and a dot at the beginning of a path. -/
def isPlace (first : Bool) (piece : Path) : Bool := isName piece || (first && piece = here)

/-- The pieces up to the last one that stands for a place. -/
def upToPlace : Bool → List Path → List Path
  | _, [] => []
  | first, piece :: rest =>
    match upToPlace false rest with
    | [] => if isPlace first piece then [piece] else []
    | more => piece :: more

/-- The path without its last name, as it is written before that name. -/
def parent (p : Path) : Path :=
  match upToPlace true (upToPlace true (pieces p)).dropLast with
  | [] => if isAbsolute p then [slash] else []
  | kept => Pieces.joined [slash] kept

/-- A path as the directory and the name of a file in it. A path without a last name is the file
itself. -/
def split (p : Path) : Path × Path :=
  match fileName? p with
  | some name => (parent p, name)
  | none => ([], p)

/-- What follows the last dot of a name, unless nothing stands before that dot. -/
def extension? (name : Path) : Option Path :=
  match (Pieces.splitOn dot name).reverse with
  | last :: before => if before = [] ∨ before = [[]] then none else some last
  | [] => none

/-! ## Absolute paths -/

/-- Whether a path begins with two slashes and no third one. -/
def hasDoubleRoot (p : Path) : Bool := (p.takeWhile fun b => b = slash).length = 2

/-- The beginning of the absolute form of a path: the current directory for a relative one. Two
slashes at the beginning of a path are kept. -/
def start (cwd p : Path) : Path :=
  if hasDoubleRoot p then [slash, slash] else if isAbsolute p then [slash] else cwd

/-- The absolute form of a path: its names after its beginning, and a slash at the end if it has
one. Names of the directory above stay. The empty path has no absolute form. -/
def absolute? (cwd p : Path) : Option Path :=
  if p = [] then none
  else
    let full := (names p).foldl join (start cwd p)
    some (if endsOpen p then join full [] else full)

end Path

end FeatureDoc
