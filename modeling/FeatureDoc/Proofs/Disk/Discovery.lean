/-
# Feature files that are found

A directory stands for the feature files below it, at any depth, each once and in the order of
their names from the root on. A walk that takes the entries of each directory by their names
comes upon them in this order, although `a.feature` and what is in a directory `a` are compared
as names and not as texts. A list of paths stands for what each of them stands for, in a row.

* `Path.extension?_eq_some_iff` : the extension of a name;
* `Node.mem_featureFiles`, `Node.pairwise_featureFiles` : what a walk finds, and in which order;
* `Node.unlisted?_eq_none_iff` : when a walk comes to its end;
* `Disk.exists_expand_eq_ok_iff`, `Disk.expand_eq_ok_iff` : when one path stands for files, and for
  which ones;
* `Disk.expandAll_finds` : the files that paths stand for.
-/
import FeatureDoc.Disk.Discovery
import FeatureDoc.Proofs.Disk.Tree

namespace FeatureDoc

/-! ## Names of feature files -/

namespace Path

/-- The extension of a name follows its last dot, and something stands before that dot. -/
theorem extension?_eq_some_iff {name ext : Path} :
    extension? name = some ext ↔ ∃ stem, stem ≠ [] ∧ name = stem ++ dot :: ext ∧ dot ∉ ext := by
  constructor
  · intro h
    unfold extension? at h
    split at h
    · rename_i last before hreverse
      split at h
      · cases h
      · rename_i hbefore
        obtain rfl := Option.some.inj h
        have hpieces : Pieces.splitOn dot name = before.reverse ++ [last] := by
          rw [← List.reverse_reverse (Pieces.splitOn dot name), hreverse, List.reverse_cons]
        have hne : before.reverse ≠ [] := fun hnil => hbefore (Or.inl (by simpa using hnil))
        have hname := Pieces.joined_splitOn dot name
        rw [hpieces, Pieces.joined_concat _ hne, List.append_assoc] at hname
        have hfree : ∀ piece ∈ before.reverse ++ [last], dot ∉ piece := fun piece hmem =>
          Pieces.notMem_of_mem_splitOn (hpieces ▸ hmem)
        refine ⟨_, fun hnil => ?_, hname.symm, hfree last List.mem_concat_self⟩
        -- nothing stands before the last dot only if there is one empty piece
        have hjoined := Pieces.splitOn_joined hne fun piece hmem =>
          hfree piece (List.mem_append_left _ hmem)
        rw [hnil] at hjoined
        exact hbefore (Or.inr (List.reverse_eq_iff.mp hjoined.symm))
    · cases h
  · rintro ⟨stem, hstem, rfl, hext⟩
    have hne : Pieces.splitOn dot stem ≠ [[]] := by
      intro h
      have hjoined := Pieces.joined_splitOn dot stem
      rw [h] at hjoined
      exact hstem hjoined.symm
    rw [extension?, Pieces.splitOn_append, Pieces.splitOn_eq_singleton hext, List.reverse_concat]
    have hnil : ¬(Pieces.splitOn dot stem).reverse = [] := by simp [Pieces.splitOn_ne_nil]
    have hsingle : ¬(Pieces.splitOn dot stem).reverse = [[]] := by
      rw [List.reverse_eq_iff]
      exact hne
    exact if_neg (not_or.mpr ⟨hnil, hsingle⟩)

/-- A path that ends in a name of an entry has the extension of this name. -/
theorem isFeaturePath_below {ns : List Path} {n : Path} (h : ∀ m ∈ ns ++ [n], IsFileName m)
    (base : Path) : isFeaturePath ((ns ++ [n]).foldl join base) = true ↔
      ∃ stem, stem ≠ [] ∧ n = stem ++ dot :: featureExtension := by
  have hname : fileName? ((ns ++ [n]).foldl join base) = some n := by
    rw [fileName?, names_below h, ← List.append_assoc, List.getLast?_concat]
    simp [(h n List.mem_concat_self).ne_above]
  rw [isFeaturePath, hname, decide_eq_true_iff, Option.bind_some, extension?_eq_some_iff]
  refine exists_congr fun stem => and_congr_right fun _ => and_iff_left ?_
  decide

end Path

/-! ## What a walk finds -/

namespace Node

open FeatureDoc.Path

/-- What is found among entries is found at one of them. -/
theorem mem_featureFilesAmong {path p : Path} {entries : List (Path × Node)} :
    p ∈ featureFilesAmong path entries ↔
      ∃ entry ∈ entries, p ∈ featureFiles (join path entry.1) entry.2 := by
  induction entries with
  | nil => simp [featureFilesAmong]
  | cons entry rest ih =>
    obtain ⟨name, node⟩ := entry
    rw [featureFilesAmong, List.mem_append, ih]
    simp

/-- A walk through a tidy tree finds the files to which names lead, if their paths are those of
feature files. -/
theorem mem_featureFiles {node : Node} (h : node.Tidy) {path p : Path} :
    p ∈ featureFiles path node ↔ ∃ ns, (∀ n ∈ ns, IsFileName n) ∧ p = ns.foldl join path ∧
      (∃ content, Disk.follow node [] ns = .ok (.leaf true content)) ∧
      isFeaturePath p = true := by
  induction h generalizing path with
  | leaf isRegular content =>
    rw [featureFiles]
    constructor
    · intro hmem
      split at hmem
      · rename_i hfile
        obtain ⟨rfl, hfeature⟩ := hfile
        obtain rfl := List.mem_singleton.mp hmem
        exact ⟨[], List.forall_mem_nil _, rfl, ⟨content, rfl⟩, hfeature⟩
      · cases hmem
    · rintro ⟨ns, -, rfl, ⟨found, hfollow⟩, hfeature⟩
      cases ns with
      | nil =>
        cases hfollow
        rw [if_pos ⟨rfl, hfeature⟩]
        exact List.mem_singleton_self _
      | cons n rest => cases hfollow
  | @directory entries named increasing below ih =>
    rw [directory, featureFiles, mem_featureFilesAmong]
    constructor
    · rintro ⟨⟨name, child⟩, hentry, hmem⟩
      obtain ⟨ns, hns, rfl, ⟨content, hfollow⟩, hfeature⟩ := (ih _ hentry).mp hmem
      have hnames := List.forall_mem_cons.mpr ⟨named _ hentry, hns⟩
      have hfind := (Dictionary.find?_eq_some_iff increasing).mpr hentry
      refine ⟨name :: ns, hnames, rfl, ⟨content, ?_⟩, hfeature⟩
      rw [Disk.follow_name hnames, child?_eq_ok_iff.mpr hfind]
      exact hfollow
    · rintro ⟨ns, hns, rfl, ⟨content, hfollow⟩, hfeature⟩
      cases ns with
      | nil => cases hfollow
      | cons name rest =>
        rw [Disk.follow_name hns] at hfollow
        obtain ⟨child, hchild, hfollow⟩ := exists_of_bind_eq_ok hfollow
        have hentry := Dictionary.mem_of_find?_eq_some (child?_eq_ok_iff.mp hchild)
        have hrest := (List.forall_mem_cons.mp hns).2
        exact ⟨_, hentry, (ih _ hentry).mpr ⟨rest, hrest, rfl, ⟨content, hfollow⟩, hfeature⟩⟩

/-- The names of what is found at an entry come after those of the directory and that of the
entry. -/
theorem names_of_mem_featureFiles {node : Node} (h : node.Tidy) {name : Path}
    (hname : IsFileName name) {path p : Path} (hp : p ∈ featureFiles (join path name) node) :
    ∃ ns, names p = names path ++ name :: ns := by
  obtain ⟨ns, hns, rfl, -⟩ := (mem_featureFiles h).mp hp
  have hnames : ∀ n ∈ name :: ns, IsFileName n := List.forall_mem_cons.mpr ⟨hname, hns⟩
  exact ⟨ns, names_below hnames path⟩

/-- A walk through a tidy tree finds files in the order of their names. -/
theorem pairwise_featureFiles {node : Node} (h : node.Tidy) (path : Path) :
    (featureFiles path node).Pairwise fun p q => names p < names q := by
  induction h generalizing path with
  | leaf isRegular content =>
    rw [featureFiles]
    split
    · exact List.pairwise_singleton _ _
    · exact .nil
  | @directory entries named increasing below ih =>
    rw [directory, featureFiles]
    induction entries with
    | nil => exact .nil
    | cons entry rest ihrest =>
      obtain ⟨name, child⟩ := entry
      obtain ⟨hname, hnamed⟩ := List.forall_mem_cons.mp named
      obtain ⟨hfirst, hincreasing⟩ := List.pairwise_cons.mp increasing
      obtain ⟨hchild, hbelow⟩ := List.forall_mem_cons.mp below
      obtain ⟨ihchild, ihbelow⟩ := List.forall_mem_cons.mp ih
      rw [featureFilesAmong, List.pairwise_append]
      refine ⟨ihchild _, ihrest hnamed hincreasing hbelow ihbelow, fun p hp q hq => ?_⟩
      -- the names of the two files part at the entries that they are below
      obtain ⟨entry, hentry, hq⟩ := mem_featureFilesAmong.mp hq
      obtain ⟨ns, hpnames⟩ := names_of_mem_featureFiles hchild hname hp
      obtain ⟨ms, hqnames⟩ := names_of_mem_featureFiles (hbelow _ hentry) (hnamed _ hentry) hq
      have hless : name < entry.1 := hfirst _ (List.mem_map_of_mem hentry)
      rw [hpnames, hqnames]
      exact List.append_left_lt (List.cons_lt_cons_iff.mpr (Or.inl hless))

end Node

/-! ## Walks that come to their ends -/

namespace Node

/-- All directories in a tree can be listed. -/
inductive Listed : Node → Prop where
  | leaf (isRegular : Bool) (content : Except DiskError Text) : Listed (.leaf isRegular content)
  | directory {entries : List (Path × Node)} (below : ∀ entry ∈ entries, Listed entry.2) :
      Listed (.directory entries)

/-- In a tidy tree all directories can be listed. -/
theorem Tidy.listed {node : Node} (h : node.Tidy) : node.Listed := by
  induction h with
  | leaf isRegular content => exact .leaf isRegular content
  | directory _ _ _ ih => exact .directory ih

mutual

/-- A walk comes to its end exactly if all directories can be listed. -/
theorem unlisted?_eq_none_iff (path : Path) (node : Node) :
    unlisted? path node = none ↔ node.Listed := by
  match node with
  | .leaf isRegular content => exact iff_of_true rfl (.leaf isRegular content)
  | .tree false entries => exact iff_of_false nofun nofun
  | .tree true entries =>
    rw [unlisted?, unlistedAmong?_eq_none_iff path entries]
    exact ⟨.directory, fun | .directory below => below⟩

/-- A walk through entries comes to its end exactly if it does so at each of them. -/
theorem unlistedAmong?_eq_none_iff (path : Path) (entries : List (Path × Node)) :
    unlistedAmong? path entries = none ↔ ∀ entry ∈ entries, entry.2.Listed := by
  match entries with
  | [] => exact iff_of_true rfl (List.forall_mem_nil _)
  | (name, node) :: rest =>
    rw [unlistedAmong?, Option.or_eq_none_iff, unlisted?_eq_none_iff _ node,
      unlistedAmong?_eq_none_iff path rest, List.forall_mem_cons]

end

end Node

/-! ## What paths stand for -/

namespace Disk

open FeatureDoc.Path

/-- A path stands for files: it is that of a regular file, or of a directory in which all
directories can be listed. -/
inductive Expands (d : Disk) (path : Path) : Prop where
  | file {content : Except DiskError Text} (hfile : d.node? path = .ok (.leaf true content))
  | directory {entries : List (Path × Node)}
      (hdirectory : d.node? path = .ok (.directory entries))
      (listed : (Node.directory entries).Listed)

/-- The path of a regular file stands for the file. -/
theorem expand_of_file {d : Disk} {path : Path} {content : Except DiskError Text}
    (h : d.node? path = .ok (.leaf true content)) : d.expand path = .ok [path] := by
  rw [expand, h]
  rfl

/-- The path of a directory stands for the feature files in it, if a walk through it comes to its
end. -/
theorem expand_of_directory {d : Disk} {path : Path} {entries : List (Path × Node)}
    (h : d.node? path = .ok (.directory entries)) (hlisted : (Node.directory entries).Listed) :
    d.expand path = .ok (Node.featureFilesAmong path entries) := by
  have hwalk : Node.unlisted? path (.tree true entries) = none :=
    (Node.unlisted?_eq_none_iff path _).mpr hlisted
  rw [expand, h]
  simp only [Node.directory, hwalk, Node.featureFiles]

/-- No other path stands for files. -/
theorem exists_expand_eq_ok_iff {d : Disk} {path : Path} :
    (∃ files, d.expand path = .ok files) ↔ d.Expands path := by
  constructor
  · rintro ⟨files, h⟩
    rw [expand] at h
    split at h
    · cases h
    · rename_i isRegular content hnode
      cases isRegular with
      | false => cases h
      | true => exact .file hnode
    · rename_i isListed entries hnode
      split at h
      · cases h
      · rename_i hwalk
        have hlisted := (Node.unlisted?_eq_none_iff path _).mp hwalk
        cases isListed with
        | false => cases hlisted
        | true => exact .directory hnode hlisted
  · rintro (hfile | ⟨hdirectory, hlisted⟩)
    · exact ⟨_, expand_of_file hfile⟩
    · exact ⟨_, expand_of_directory hdirectory hlisted⟩

/-- Paths stand for what each of them stands for, in a row. -/
theorem expandAll_eq (d : Disk) (paths : List Path) :
    d.expandAll paths = (paths.mapM d.expand).map List.flatten := by
  induction paths with
  | nil => rfl
  | cons path rest ih =>
    rw [expandAll, List.mapM_cons, ih]
    cases d.expand path with
    | error e => rfl
    | ok files => cases rest.mapM d.expand <;> rfl

/-- The files that paths stand for. -/
theorem expandAll_eq_ok_iff {d : Disk} {paths files : List Path} :
    d.expandAll paths = .ok files ↔ ∃ parts,
      List.Forall₂ (fun path part => d.expand path = .ok part) paths parts ∧
        files = parts.flatten := by
  simp only [← mapM_eq_ok_iff]
  rw [expandAll_eq]
  constructor
  · intro h
    obtain ⟨parts, hparts, rfl⟩ := exists_of_map_eq_ok h
    exact ⟨parts, hparts, rfl⟩
  · rintro ⟨parts, hparts, rfl⟩
    rw [hparts]
    rfl

/-- Paths stand for no files exactly if one of them does not. -/
theorem exists_expandAll_eq_error_iff {d : Disk} {paths : List Path} :
    (∃ e, d.expandAll paths = .error e) ↔ ∃ p ∈ paths, ¬d.Expands p := by
  have hone : ∀ p, (∃ e, d.expand p = .error e) ↔ ¬d.Expands p := by
    intro p
    rw [← exists_expand_eq_ok_iff]
    cases d.expand p <;> simp
  simp only [← hone, ← exists_mapM_eq_error_iff]
  rw [expandAll_eq]
  cases paths.mapM d.expand <;> simp [Except.map]

/-! ## Feature files below directories -/

/-- A feature file is below a directory at a path, at any depth: names of entries lead to it from
there, and the last one has the extension of feature files. -/
def IsFeatureBelow (d : Disk) (dir p : Path) : Prop :=
  ∃ (ns : List Path) (stem : Path), stem ≠ [] ∧
    (∀ n ∈ ns ++ [stem ++ dot :: featureExtension], IsFileName n) ∧
    p = (ns ++ [stem ++ dot :: featureExtension]).foldl join dir ∧
    ∃ content, d.node? p = .ok (.leaf true content)

/-- The files that a path stands for: a file for itself, and a directory for the feature files
below it, in the order of their names. -/
inductive StandsFor (d : Disk) (path : Path) : List Path → Prop where
  | file {content : Except DiskError Text} (hfile : d.node? path = .ok (.leaf true content)) :
      StandsFor d path [path]
  | directory {entries : List (Path × Node)} {files : List Path}
      (hdirectory : d.node? path = .ok (.directory entries))
      (increasing : files.Pairwise fun p q => names p < names q)
      (found : ∀ p, p ∈ files ↔ d.IsFeatureBelow path p) : StandsFor d path files

/-- What a walk finds below a directory are the feature files below it. -/
theorem mem_featureFilesAmong_iff {d : Disk} (hroot : d.root.Tidy) {path : Path}
    {entries : List (Path × Node)} (h : d.node? path = .ok (.directory entries)) {p : Path} :
    p ∈ Node.featureFilesAmong path entries ↔ d.IsFeatureBelow path p := by
  have hwalk : p ∈ Node.featureFiles path (.directory entries) ↔ _ :=
    Node.mem_featureFiles (tidy_of_node? hroot h)
  rw [Node.directory, Node.featureFiles] at hwalk
  rw [hwalk]
  constructor
  · rintro ⟨ns, hns, rfl, hfile, hfeature⟩
    rcases List.eq_nil_or_concat' ns with rfl | ⟨front, last, rfl⟩
    · obtain ⟨content, hfollow⟩ := hfile
      cases hfollow
    · obtain ⟨stem, hstem, rfl⟩ := (isFeaturePath_below hns path).mp hfeature
      rw [← node?_below h (by simp) hns] at hfile
      exact ⟨front, stem, hstem, hns, rfl, hfile⟩
  · rintro ⟨front, stem, hstem, hns, rfl, hfile⟩
    rw [node?_below h (by simp) hns] at hfile
    exact ⟨_, hns, rfl, hfile, (isFeaturePath_below hns path).mpr ⟨stem, hstem, rfl⟩⟩

/-- Files in strictly increasing order are determined by which ones there are. -/
theorem eq_of_increasing {files files' : List Path}
    (h : files.Pairwise fun p q => names p < names q)
    (h' : files'.Pairwise fun p q => names p < names q) (hmem : ∀ p, p ∈ files ↔ p ∈ files') :
    files = files' := by
  have hnodup : ∀ l : List Path, (l.Pairwise fun p q => names p < names q) → l.Nodup := by
    intro l hl
    refine hl.imp ?_
    rintro p _ hless rfl
    exact List.lt_irrefl _ hless
  exact List.Perm.eq_of_pairwise
    (fun p q _ _ hless hgreater => absurd (List.lt_trans hless hgreater) (List.lt_irrefl _)) h h'
    ((List.perm_ext_iff_of_nodup (hnodup _ h) (hnodup _ h')).mpr hmem)

/-- On a tidy disk every regular file and every directory stands for files. -/
theorem expands_iff {d : Disk} (hroot : d.root.Tidy) {path : Path} :
    d.Expands path ↔ (∃ content, d.node? path = .ok (.leaf true content)) ∨
      ∃ entries, d.node? path = .ok (.directory entries) := by
  constructor
  · rintro (hfile | ⟨hdirectory, -⟩)
    · exact Or.inl ⟨_, hfile⟩
    · exact Or.inr ⟨_, hdirectory⟩
  · rintro (⟨content, hfile⟩ | ⟨entries, hdirectory⟩)
    · exact .file hfile
    · exact .directory hdirectory (tidy_of_node? hroot hdirectory).listed

/-- The files that a path stands for are determined. -/
theorem expand_eq_ok_iff {d : Disk} (hroot : d.root.Tidy) {path : Path} {files : List Path} :
    d.expand path = .ok files ↔ d.StandsFor path files := by
  have hfound : ∀ entries, d.node? path = .ok (.directory entries) →
      ∀ p, p ∈ Node.featureFilesAmong path entries ↔ d.IsFeatureBelow path p :=
    fun _ h _ => mem_featureFilesAmong_iff hroot h
  have hincreasing : ∀ entries, d.node? path = .ok (.directory entries) →
      (Node.featureFilesAmong path entries).Pairwise fun p q => names p < names q := by
    intro entries h
    have hwalk := Node.pairwise_featureFiles (tidy_of_node? hroot h) path
    rwa [Node.directory, Node.featureFiles] at hwalk
  constructor
  · intro h
    rcases exists_expand_eq_ok_iff.mp ⟨files, h⟩ with hfile | ⟨hdirectory, hlisted⟩
    · rw [expand_of_file hfile] at h
      obtain rfl := Except.ok.inj h
      exact .file hfile
    · rw [expand_of_directory hdirectory hlisted] at h
      obtain rfl := Except.ok.inj h
      exact .directory hdirectory (hincreasing _ hdirectory) (hfound _ hdirectory)
  · rintro (hfile | ⟨hdirectory, increasing, found⟩)
    · exact expand_of_file hfile
    · rw [expand_of_directory hdirectory (tidy_of_node? hroot hdirectory).listed]
      refine congrArg Except.ok (eq_of_increasing (hincreasing _ hdirectory) increasing fun p => ?_)
      rw [found p, ← hfound _ hdirectory p]

/-- On a tidy disk, paths of files and directories stand for these files, in a row: a file for
itself, whatever its name is, and a directory for the feature files below it, at any depth, each
once and in the order of the names in their paths. They stand for no files exactly if one of them
is the path of neither a file nor a directory. -/
theorem expandAll_finds {d : Disk} (hroot : d.root.Tidy) (paths : List Path) :
    (∀ files, d.expandAll paths = .ok files ↔
      ∃ parts, List.Forall₂ d.StandsFor paths parts ∧ files = parts.flatten) ∧
    ((∃ e, d.expandAll paths = .error e) ↔ ∃ p ∈ paths,
      ¬((∃ content, d.node? p = .ok (.leaf true content)) ∨
        ∃ entries, d.node? p = .ok (.directory entries))) := by
  constructor
  · intro files
    rw [expandAll_eq_ok_iff]
    simp only [expand_eq_ok_iff hroot]
  · rw [exists_expandAll_eq_error_iff]
    simp only [expands_iff hroot]

/-- A directory with names that are beginnings of each other, a directory with the extension of
feature files, and a file with a name that has no extension. -/
def lookalikes : Disk :=
  (((((empty "/").put "d/a.feature" (.file (some "Feature: A\n"))).put
    "d/a/z.feature" (.file none)).put "d/x.feature/b.feature" (.file none)).put
    "d/.feature" (.file none)).put "d/notes.txt" (.file none)

/-- What is in the directory `a` comes before `a.feature`, and a file that is named outright is
kept as it is. -/
theorem expandAll_finds_lookalikes :
    lookalikes.root.Tidy ∧ ∃ parts,
      List.Forall₂ lookalikes.StandsFor ["d", "d/notes.txt"] parts ∧
        (["d/a/z.feature", "d/a.feature", "d/x.feature/b.feature", "d/notes.txt"] : List Path) =
          parts.flatten := by
  have hroot : lookalikes.root.Tidy :=
    tidy_put (by decide) (.leaf _ _) <| tidy_put (by decide) (.leaf _ _) <|
      tidy_put (by decide) (.leaf _ _) <| tidy_put (by decide) (.leaf _ _) <|
      tidy_put (by decide) (.leaf _ _) (tidy_empty (by decide))
  have hexpand : lookalikes.expandAll ["d", "d/notes.txt"] =
      .ok ["d/a/z.feature", "d/a.feature", "d/x.feature/b.feature", "d/notes.txt"] := by
    decide +kernel
  exact ⟨hroot, ((expandAll_finds hroot _).1 _).mp hexpand⟩

end Disk

end FeatureDoc
