/-
# Disks

A disk is a tree of directories and files, seen from a current directory. What a path leads to is
found name by name; a file is read as a text. There are no links in it.
-/
import FeatureDoc.Dictionary
import FeatureDoc.Path.Basic

namespace FeatureDoc

/-- Why a file cannot be read. -/
inductive DiskError where
  /-- Nothing is there. -/
  | notFound
  /-- A path goes on after a file. -/
  | notDirectory
  /-- A directory is there. -/
  | isDirectory
  /-- What is there may not be read. -/
  | denied
  /-- The bytes of the file are no UTF-8. -/
  | notText
  /-- The path is empty. -/
  | emptyPath
deriving DecidableEq, Repr

/-- What is said about a file that cannot be read. -/
def DiskError.message : DiskError → Text
  | notFound => "No such file or directory (os error 2)"
  | notDirectory => "Not a directory (os error 20)"
  | isDirectory => "Is a directory (os error 21)"
  | denied => "Permission denied (os error 13)"
  | notText => "stream did not contain valid UTF-8"
  | emptyPath => "cannot make an empty path absolute"

/-- What can be at a path. -/
inductive Node where
  /-- Something without entries: a regular file, or else a device, a pipe and the like. It yields
  a text when it is read, or it cannot be read. -/
  | leaf (isRegular : Bool) (content : Except DiskError Text)
  /-- A directory with its entries, in increasing order of their names. The entries of some
  directories can be reached by their names but not listed. -/
  | tree (isListed : Bool) (entries : List (Path × Node))

/-- A tree of directories and files, and the absolute path of the current directory. -/
structure Disk where
  root : Node
  cwd : Path

namespace Node

/-- The text that bytes stand for in UTF-8, if they stand for one. -/
def contentOf (bytes : ByteArray) : Option Text := (String.fromUTF8? bytes).map String.toList

/-- A regular file with its text; one without a text holds bytes that are no UTF-8. -/
def file (content : Option Text) : Node :=
  leaf true (match content with
    | some t => .ok t
    | none => .error .notText)

/-- A directory whose entries can be listed. -/
def directory (entries : List (Path × Node)) : Node := tree true entries

/-- The entry of a name; only a directory has entries. -/
def child? (node : Node) (name : Path) : Except DiskError Node :=
  match node with
  | leaf .. => .error .notDirectory
  | tree _ entries =>
    match Dictionary.find? name entries with
    | some found => .ok found
    | none => .error .notFound

/-- The entries of a directory; nothing else has any. -/
def entries : Node → List (Path × Node)
  | leaf .. => []
  | tree _ entries => entries

/-- Whether nothing keeps the entries of a node from being listed. -/
def isListed : Node → Bool
  | leaf .. => true
  | tree isListed _ => isListed

/-- A node with other entries, which is a directory. -/
def withEntries (node : Node) (entries : List (Path × Node)) : Node := tree node.isListed entries

/-! ## Changing a tree -/

/-- Puts a node where the names lead to. Directories on the way are made. -/
def put (node : Node) : List Path → Node → Node
  | [], _ => node
  | name :: rest, above =>
    let below := (Dictionary.find? name above.entries).getD (directory [])
    above.withEntries (Dictionary.insert name (put node rest below) above.entries)

/-- Takes away what the names lead to. -/
def erase : List Path → Node → Node
  | [], node => node
  | [name], above => above.withEntries (Dictionary.erase name above.entries)
  | name :: rest, above =>
    match Dictionary.find? name above.entries with
    | none => above
    | some below => above.withEntries (Dictionary.insert name (erase rest below) above.entries)

end Node

namespace Disk

/-- The disk with nothing but the directory of the given path, which is the current one. -/
def empty (cwd : Path) : Disk :=
  { root := Node.put (.directory []) (Path.names cwd) (.directory []), cwd }

/-- The place of a path, from the root. -/
def place (d : Disk) (p : Path) : Path := Path.join d.cwd p

/-- Puts a node at a path. Directories on the way are made. -/
def put (d : Disk) (p : Path) (node : Node) : Disk :=
  { d with root := node.put (Path.names (d.place p)) d.root }

/-- Takes away what is at a path. -/
def erase (d : Disk) (p : Path) : Disk :=
  { d with root := d.root.erase (Path.names (d.place p)) }

/-! ## Finding -/

/-- What the pieces of a path lead to, from a node with the directories above it. Pieces that are
no names stay where they are, if that is a directory. -/
def follow (node : Node) (parents : List Node) : List Path → Except DiskError Node
  | [] => .ok node
  | piece :: rest =>
    match node with
    | .leaf .. => .error .notDirectory
    | .tree .. =>
      if piece = Path.above then
        match parents with
        | [] => follow node [] rest
        | parent :: parents => follow parent parents rest
      else if Path.isName piece then
        match node.child? piece with
        | .error e => .error e
        | .ok found => follow found (node :: parents) rest
      else follow node parents rest

/-- What is at a path. -/
def node? (d : Disk) (p : Path) : Except DiskError Node :=
  if p = [] then .error .notFound else follow d.root [] (Path.pieces (d.place p))

/-- The text of what is at a path. -/
def readText (d : Disk) (p : Path) : Except DiskError Text :=
  match d.node? p with
  | .error e => .error e
  | .ok (.leaf _ content) => content
  | .ok (.tree isListed _) => .error (if isListed then .isDirectory else .denied)

end Disk

end FeatureDoc
