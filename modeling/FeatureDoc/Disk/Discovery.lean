/-
# Finding feature files

A list of paths stands for a list of files: a path of a file for the file itself, whatever its
name is, and the path of a directory for all feature files below it, in the order of a walk that
takes the entries of each directory by their names. The walk ends at the first directory that
cannot be listed.
-/
import FeatureDoc.Disk.Basic
import FeatureDoc.Journal

namespace FeatureDoc

/-- The extension of feature files. -/
def featureExtension : Path := "feature"

/-- Whether the last name of a path has the extension of feature files. -/
def isFeaturePath (p : Path) : Bool :=
  (Path.fileName? p).bind Path.extension? = some featureExtension

namespace Node

mutual

/-- The paths of the feature files in a tree at a path. -/
def featureFiles (path : Path) : Node → List Path
  | .leaf isRegular _ => if isRegular ∧ isFeaturePath path then [path] else []
  | .tree _ entries => featureFilesAmong path entries

/-- The paths of the feature files among the entries of a directory at a path. -/
def featureFilesAmong (path : Path) : List (Path × Node) → List Path
  | [] => []
  | (name, node) :: rest =>
    featureFiles (Path.join path name) node ++ featureFilesAmong path rest

end

mutual

/-- The path of the first directory that a walk through a tree at a path cannot list. -/
def unlisted? (path : Path) : Node → Option Path
  | .leaf .. => none
  | .tree false _ => some path
  | .tree true entries => unlistedAmong? path entries

/-- The path of the first directory that a walk through the entries of a directory at a path
cannot list. -/
def unlistedAmong? (path : Path) : List (Path × Node) → Option Path
  | [] => none
  | (name, node) :: rest =>
    (unlisted? (Path.join path name) node).or (unlistedAmong? path rest)

end

/-- Whether a node is a directory. -/
def isDirectory : Node → Bool
  | .leaf .. => false
  | .tree .. => true

end Node

/-- Why a path stands for no files. -/
inductive ExpandError where
  /-- Neither a regular file nor a directory is there. -/
  | missing (path : Path)
  /-- The walk through a directory has come to one that cannot be listed. -/
  | unlisted (path inner : Path)
deriving DecidableEq

namespace Disk

/-- The files that a path stands for. -/
def expand (d : Disk) (path : Path) : Except ExpandError (List Path) :=
  match d.node? path with
  | .error _ => .error (.missing path)
  | .ok (.leaf isRegular _) => if isRegular then .ok [path] else .error (.missing path)
  | .ok (.tree isListed entries) =>
    match Node.unlisted? path (.tree isListed entries) with
    | some inner => .error (.unlisted path inner)
    | none => .ok (Node.featureFiles path (.tree isListed entries))

/-- The files that paths stand for, or why the first of them that stands for none does not. -/
def expandAll (d : Disk) : List Path → Except ExpandError (List Path)
  | [] => .ok []
  | path :: rest => do
    let files ← d.expand path
    let others ← d.expandAll rest
    return files ++ others

/-- Whether a directory is at a path. -/
def isDirectoryAt (d : Disk) (path : Path) : Bool :=
  match d.node? path with
  | .ok node => node.isDirectory
  | .error _ => false

/-- What is made known about a directory whose files have been found. -/
def foundNote (path : Path) (files : List Path) : Note :=
  ⟨.debug, .discovering, "discovered feature files dir=" ++ path.display ++ " count=" ++
    Text.ofNat files.length⟩

/-- What is made known while paths are expanded: the directories up to the first path that stands
for no files. -/
def expandNotes (d : Disk) : List Path → Journal
  | [] => []
  | path :: rest =>
    match d.expand path with
    | .error _ => []
    | .ok files =>
      (if d.isDirectoryAt path then [foundNote path files] else []) ++ d.expandNotes rest

end Disk

end FeatureDoc
