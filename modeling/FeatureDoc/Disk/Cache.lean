/-
# A cache of features

Loading a document again yields another tree with the same content. The cache keeps the first
tree of each file, told from others by a number, and gives it to everyone who asks for the file.
Paths with the same names lead to the same entry.
-/
import FeatureDoc.Disk.Document

namespace FeatureDoc

/-- A feature that has been loaded, with the number of its tree. -/
structure LoadedFeature where
  feature : Feature
  tree : Nat

/-- Features by the names in the absolute paths of their documents. -/
abbrev FeatureCache := List (List Path × LoadedFeature)

/-- What asking a cache for a document yields. -/
structure CacheAnswer where
  /-- The feature, or why there is none. -/
  result : Except LoadError LoadedFeature
  cache : FeatureCache
  /-- The number for the next tree. -/
  nextTree : Nat
  /-- What has been made known. -/
  journal : Journal

namespace FeatureCache

/-- The entry for an absolute path. -/
def find? (c : FeatureCache) (path : Path) : Option LoadedFeature := c.lookup (Path.names path)

/-- Loads a document, and keeps it if features are to be kept. -/
def loadInto (c : FeatureCache) (enabled : Bool) (nextTree : Nat) (d : Disk) (base file : Path)
    (path : Path) : CacheAnswer :=
  let loading := d.load base file
  match loading.result with
  | .error e => { result := .error e, cache := c, nextTree, journal := loading.journal }
  | .ok feature =>
    let loaded : LoadedFeature := { feature, tree := nextTree }
    { result := .ok loaded
      cache := if enabled then (Path.names path, loaded) :: c else c
      nextTree := nextTree + 1
      journal := loading.journal }

/-- The feature of the document in a file of a directory: the one that is kept, if features are
to be kept, or else a new one. -/
def get (c : FeatureCache) (enabled : Bool) (nextTree : Nat) (d : Disk) (base file : Path) :
    CacheAnswer :=
  match d.documentPath? base file with
  | none =>
    { result := .error (.unreadable (Path.join base file) .emptyPath), cache := c, nextTree,
      journal := [] }
  | some path =>
    match if enabled then c.find? path else none with
    | some kept =>
      { result := .ok kept, cache := c, nextTree
        journal := [⟨.debug, .storing, "feature cache hit for " ++ path.display⟩] }
    | none => c.loadInto enabled nextTree d base file path

end FeatureCache

end FeatureDoc
