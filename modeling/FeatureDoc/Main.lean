/-
# The command line

The outermost layer takes the arguments, the environment and the part of the file system that the
command looks at, runs the program, and writes what it leaves behind.
-/
import FeatureDoc.Command.Program

namespace FeatureDoc

/-- What is at a path of the file system: a file, a directory, or something else. A symbolic link
counts as what it leads to. -/
def kindAt (entry : IO.FS.DirEntry) : IO (Option IO.FS.FileType) := do
  try
    let data ← entry.path.metadata
    return some data.type
  catch _ => return none

/-- A file of the file system as a node. -/
def readFile (entry : IO.FS.DirEntry) : IO Node := do
  try
    return .file (Node.contentOf (← IO.FS.readBinFile entry.path))
  catch _ => return .leaf true (.error .denied)

/-- The entries of a directory, if they can be listed. -/
def listDirectory (directory : IO.FS.DirEntry) : IO (Option (Array IO.FS.DirEntry)) := do
  try
    return some (← directory.path.readDir)
  catch _ => return none

/-- The absolute path of the given names. -/
def Path.ofNames (names : List Path) : Path := slash :: Pieces.joined [slash] names

/-- A disk with a node at the given names, unless something is there already. -/
def Disk.ensure (d : Disk) (names : List Path) (node : Node) : Disk :=
  match d.node? (Path.ofNames names) with
  | .ok _ => d
  | .error _ => d.put (Path.ofNames names) node

/-- Copies the feature files below a directory, but does not follow symbolic links. -/
partial def copyTree (d : Disk) (names : List Path) (directory : IO.FS.DirEntry) : IO Disk := do
  match ← listDirectory directory with
  | none => return d.put (Path.ofNames names) (.tree false [])
  | some entries =>
    let mut d := d.ensure names (.directory [])
    for entry in entries do
      let name : Path := Utf8.encode entry.fileName.toList
      match (← entry.path.symlinkMetadata).type with
      | .dir => d ← copyTree d (names ++ [name]) entry
      | .file => if isFeaturePath name then d := d.ensure (names ++ [name]) (← readFile entry)
      | _ => pure ()
    return d

/-- What is below the root of the file system at the given names. -/
def entryAt (root : IO.FS.DirEntry) (names : List Path) : IO.FS.DirEntry :=
  { root with fileName := String.ofList (Path.display (Pieces.joined [Path.slash] names)) }

/-- Copies what the pieces of a path lead to, from the given names on. Every directory on the way
is copied without its entries. -/
def copyPath (root : IO.FS.DirEntry) (d : Disk) (names : List Path) : List Path → IO Disk
  | [] => do
    let here := entryAt root names
    match ← kindAt here with
    | some .dir => copyTree d names here
    | _ => return d
  | piece :: rest => do
    if piece = Path.above then copyPath root d names.dropLast rest
    else if Path.isName piece then
      let names := names ++ [piece]
      let here := entryAt root names
      match ← kindAt here with
      | some .dir => copyPath root (d.ensure names (.directory [])) names rest
      | some .file => return d.ensure names (← readFile here)
      | _ => return d
    else copyPath root d names rest

/-- The part of the file system that a call looks at. -/
def copyDisk (args : List Text) (environment : Option Text) : IO Disk := do
  let cwd := (toString (← IO.currentDir)).toList
  let disk := Disk.empty cwd
  match Call.read args environment with
  | .error _ => return disk
  | .ok call =>
    call.command.paths.foldlM
      (fun d p => copyPath ⟨"/", ""⟩ d [] (Path.pieces (d.place p))) disk

end FeatureDoc

open FeatureDoc in
/-- Runs the program on the arguments of a call. -/
def main (args : List String) : IO UInt32 := do
  let words := ("cargo-outline" :: args).map String.toList
  let environment := (← IO.getEnv levelVariable).map String.toList
  let ending := runProgram words environment (← copyDisk words environment)
  let stdout ← IO.getStdout
  stdout.putStr (String.ofList ending.written)
  stdout.flush
  for line in ending.shown do
    IO.eprintln (String.ofList line)
  return UInt32.ofNat ending.exit
