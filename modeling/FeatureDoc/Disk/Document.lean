/-
# Documents on a disk

A document is asked for by a directory and the path of a file in it. Its feature keeps two paths:
the absolute one, and a relative one that starts at the name of the directory.
-/
import FeatureDoc.Disk.Basic
import FeatureDoc.Feature.Draft

namespace FeatureDoc

/-- Why there is no feature for a document on a disk. -/
inductive LoadError where
  /-- The file cannot be read. -/
  | unreadable (path : Path) (cause : DiskError)
  /-- The document is invalid. -/
  | invalid (cause : ReadError)
deriving DecidableEq

namespace LoadError

/-- What is said about a document for which there is no feature. -/
def message : LoadError → Text
  | unreadable path cause => "cannot read feature file " ++ path.display ++ ": " ++ cause.message
  | invalid cause => cause.message

/-- What is said about the causes of an error, from the nearest to the first. -/
def causes : LoadError → List Text
  | unreadable _ cause => [cause.message]
  | invalid cause => cause.causes

end LoadError

/-- What loading a document yields. -/
structure Loading where
  /-- The feature, or why there is none. -/
  result : Except LoadError Feature
  /-- What has been made known. -/
  journal : Journal

namespace Disk

/-- The absolute path of a file in a directory. -/
def documentPath? (d : Disk) (base file : Path) : Option Path :=
  Path.absolute? d.cwd (Path.join base file)

/-- The path of a file in a directory, from the name of the directory on. -/
def relativePath (base file : Path) : Path :=
  match Path.fileName? base with
  | some name => Path.join name file
  | none => file

/-- Loads the document in a file of a directory. -/
def load (d : Disk) (base file : Path) : Loading :=
  match d.documentPath? base file with
  | none => { result := .error (.unreadable (Path.join base file) .emptyPath), journal := [] }
  | some path =>
    match d.readText path with
    | .error cause => { result := .error (.unreadable path cause), journal := [] }
    | .ok t =>
      let reading := readDocument path (relativePath base file) t
      { result := reading.result.mapError .invalid, journal := reading.journal }

end Disk

end FeatureDoc
