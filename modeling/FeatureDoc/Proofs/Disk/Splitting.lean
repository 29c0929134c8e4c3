/-
# Files and the directories they are in

A path is taken apart into a directory and the name of a file in it. Put together again it may be
written in another way, but its names are the same: what is read there is what is read at the
path itself.

* `Path.names_join` : joining puts the names of both paths in a row;
* `Path.names_parent` : the path without its last name has the other names;
* `Path.names_absolute?` : the absolute form of a path has the names of its place;
* `Disk.exists_documentPath?_split` : a file is found in its directory as at its path;
* `Disk.load_split_of_leaf` : what is loaded there is what the content of the file yields.
-/
import FeatureDoc.Proofs.Disk.Document
import FeatureDoc.Proofs.Disk.Finding

namespace FeatureDoc

namespace Path

/-! ## Pieces of joined paths -/

/-- A piece without a slash. -/
def IsPiece (piece : Path) : Prop := slash ∉ piece

/-- The names of a path are names without slashes. -/
theorem isPiece_of_mem_names {p name : Path} (h : name ∈ names p) :
    IsPiece name ∧ isName name = true := by
  obtain ⟨hmem, hname⟩ := List.mem_filter.mp h
  exact ⟨Pieces.notMem_of_mem_splitOn hmem, hname⟩

/-- A piece is no absolute path. -/
theorem IsPiece.isAbsolute {piece : Path} (h : IsPiece piece) : isAbsolute piece = false := by
  cases piece with
  | nil => rfl
  | cons c rest =>
    have hc : c ≠ slash := fun heq => h (heq ▸ List.mem_cons_self)
    simp [Path.isAbsolute, hc]

/-- A name has itself as its only name. -/
theorem IsPiece.names {name : Path} (h : IsPiece name) (hname : isName name = true) :
    names name = [name] := by
  rw [Path.names, pieces, Pieces.splitOn_eq_singleton h, List.filter_cons_of_pos hname,
    List.filter_nil]

/-- A name ends in a name. -/
theorem IsPiece.endsInName {name : Path} (h : IsPiece name) (hname : isName name = true) :
    endsInName name = true :=
  endsInName_iff.mpr ⟨[], name, Pieces.splitOn_eq_singleton h, hname⟩

/-- A path that ends with a slash has an empty piece at its end. -/
theorem pieces_of_endsOpen {p : Path} (h : endsOpen p = true) :
    ∃ before, p = before ++ [slash] ∧ pieces p = pieces before ++ [[]] := by
  obtain ⟨before, rfl⟩ := List.getLast?_eq_some_iff.mp (of_decide_eq_true h)
  exact ⟨before, rfl, Pieces.splitOn_append slash before []⟩

/-- The pieces of a directory before those of a path below it. -/
def lead (base : Path) : List Path :=
  if base = [] ∨ endsOpen base then (pieces base).dropLast else pieces base

/-- A directory has no other pieces than these but an empty one at its end. -/
theorem pieces_eq_lead_or (base : Path) :
    pieces base = lead base ∨ pieces base = lead base ++ [[]] := by
  rw [lead]
  split
  · rename_i hopen
    right
    rcases hopen with rfl | hopen
    · rfl
    · obtain ⟨before, -, hpieces⟩ := pieces_of_endsOpen hopen
      rw [hpieces, List.dropLast_concat]
  · exact Or.inl rfl

/-- The names of a directory are among these pieces. -/
theorem filter_lead (base : Path) : (lead base).filter isName = names base := by
  rcases pieces_eq_lead_or base with h | h
  · rw [names, h]
  · rw [names, h, List.filter_append]
    exact (List.append_nil _).symm

/-- The pieces of a path below a directory come after those of the directory. -/
theorem pieces_join (base : Path) {file : Path} (h : isAbsolute file = false) :
    pieces (join base file) = lead base ++ pieces file := by
  rw [join, if_neg (by simp [h]), lead]
  split
  · rename_i hopen
    rcases hopen with rfl | hopen
    · rfl
    · obtain ⟨before, rfl, hpieces⟩ := pieces_of_endsOpen hopen
      rw [hpieces, List.dropLast_concat, List.append_assoc]
      exact Pieces.splitOn_append slash before file
  · exact Pieces.splitOn_append slash base file

/-- Joining puts the names of both paths in a row, unless the second one starts at the root. -/
theorem names_join (base file : Path) :
    names (join base file) = (if isAbsolute file then [] else names base) ++ names file := by
  cases h : isAbsolute file with
  | true => rw [join_of_isAbsolute h, if_pos rfl, List.nil_append]
  | false =>
    rw [names, pieces_join base h, List.filter_append, filter_lead]
    rfl

/-- A path below a directory ends as it does elsewhere. -/
theorem endsInName_join (base file : Path) : endsInName (join base file) = endsInName file := by
  cases h : isAbsolute file with
  | true => rw [join_of_isAbsolute h]
  | false =>
    have hlast : (pieces file).getLast?.isSome = true :=
      List.getLast?_isSome.mpr (Pieces.splitOn_ne_nil slash file)
    rw [endsInName, pieces_join base h, List.getLast?_append, Option.or_of_isSome hlast]
    rfl

/-- A path that ends in a name is not empty and has no slash at its end. -/
theorem not_endsOpen_of_endsInName {p : Path} (h : endsInName p = true) :
    p ≠ [] ∧ endsOpen p = false := by
  constructor
  · rintro rfl
    cases h
  · cases hopen : endsOpen p with
    | false => rfl
    | true =>
      obtain ⟨before, -, hpieces⟩ := pieces_of_endsOpen hopen
      rw [endsInName, hpieces, List.getLast?_concat] at h
      cases h

/-! ## The path without its last name -/

/-- Only pieces that are no names are left out behind the last place. -/
theorem filter_upToPlace (first : Bool) (ps : List Path) :
    (upToPlace first ps).filter isName = ps.filter isName := by
  induction ps generalizing first with
  | nil => rfl
  | cons piece rest ih =>
    rw [upToPlace, List.filter_cons, ← ih false]
    split
    · rename_i hnone
      rw [hnone]
      cases hname : isName piece with
      | true => simp [isPlace, hname]
      | false => cases isPlace first piece <;> simp [hname]
    · rename_i more hmore
      rw [List.filter_cons]

/-- After the first piece only names are places. -/
theorem upToPlace_eq_nil_iff {ps : List Path} :
    upToPlace false ps = [] ↔ ps.filter isName = [] := by
  induction ps with
  | nil => simp [upToPlace]
  | cons piece rest ih =>
    rw [upToPlace, List.filter_cons]
    split
    · rename_i hnone
      rw [ih.mp hnone]
      cases hname : isName piece <;> simp [isPlace, hname]
    · rename_i more hmore
      have hrest : rest.filter isName ≠ [] := fun hnil => hmore (ih.mpr hnil)
      cases hname : isName piece <;> simp [hrest]

/-- Without its last piece, a path up to its last place has the names but the last. -/
theorem filter_dropLast_upToPlace (first : Bool) (ps : List Path) :
    (upToPlace first ps).dropLast.filter isName = (ps.filter isName).dropLast := by
  induction ps generalizing first with
  | nil => rfl
  | cons piece rest ih =>
    rw [upToPlace, List.filter_cons]
    split
    · rename_i hnone
      rw [upToPlace_eq_nil_iff.mp hnone]
      split <;> split <;> rfl
    · rename_i more hmore
      have hrest : rest.filter isName ≠ [] := fun hnil => hmore (upToPlace_eq_nil_iff.mpr hnil)
      rw [List.dropLast_cons_of_ne_nil hmore, List.filter_cons, ih]
      split
      · rw [List.dropLast_cons_of_ne_nil hrest]
      · rfl

/-- The pieces up to the last place are a beginning of the pieces. -/
theorem upToPlace_begins (first : Bool) (ps : List Path) : upToPlace first ps <+: ps := by
  induction ps generalizing first with
  | nil => exact List.nil_prefix
  | cons piece rest ih =>
    rw [upToPlace]
    split
    · split
      · exact ⟨rest, rfl⟩
      · exact List.nil_prefix
    · exact List.cons_prefix_cons.mpr ⟨rfl, ih false⟩

/-- A path that is joined from pieces starts at the root if its first piece is empty. -/
theorem isAbsolute_joined {piece : Path} (h : IsPiece piece) (more : List Path) :
    isAbsolute (Pieces.joined [slash] (piece :: more)) = (piece = [] && more ≠ []) := by
  cases piece with
  | nil => cases more <;> simp [Pieces.joined, List.intercalate, isAbsolute]
  | cons c rest =>
    have hc : c ≠ slash := fun heq => h (heq ▸ List.mem_cons_self)
    cases more <;> simp [Pieces.joined, List.intercalate, isAbsolute, hc]

/-- An empty piece is no last place. -/
theorem upToPlace_ne_empty (first : Bool) (ps : List Path) : upToPlace first ps ≠ [[]] := by
  cases ps with
  | nil => exact List.cons_ne_nil _ _ ∘ Eq.symm
  | cons piece rest =>
    rw [upToPlace]
    split
    · split
      · rintro ⟨⟩
        cases first <;> contradiction
      · exact List.cons_ne_nil _ _ ∘ Eq.symm
    · rename_i more hmore
      exact fun heq => hmore (List.cons.inj heq).2

/-- The pieces before the last name are a beginning of the pieces. -/
theorem upToPlace_dropLast_begins (ps : List Path) :
    upToPlace true (upToPlace true ps).dropLast <+: ps := by
  have hdrop := List.dropLast_prefix (upToPlace true ps)
  exact (upToPlace_begins true _).trans (hdrop.trans (upToPlace_begins true ps))

/-- A path without its last name starts where the path starts. -/
theorem isAbsolute_parent (p : Path) : isAbsolute (parent p) = isAbsolute p := by
  have hbefore := upToPlace_dropLast_begins (pieces p)
  rw [parent]
  split
  · cases isAbsolute p <;> rfl
  · rename_i hkept
    generalize hk : upToPlace true (upToPlace true (pieces p)).dropLast = kept at hkept hbefore
    have hplace : kept ≠ [[]] := hk ▸ upToPlace_ne_empty true _
    cases kept with
    | nil => exact absurd rfl hkept
    | cons piece more =>
      obtain ⟨others, hpieces⟩ := hbefore
      have hpiece : IsPiece piece :=
        Pieces.notMem_of_mem_splitOn (hpieces ▸ List.mem_cons_self : piece ∈ pieces p)
      have hp : p = Pieces.joined [slash] (piece :: (more ++ others)) := by
        rw [← List.cons_append, hpieces]
        exact (Pieces.joined_splitOn slash p).symm
      rw [hp, isAbsolute_joined hpiece, isAbsolute_joined hpiece]
      cases piece with
      | nil =>
        have hmore : more ≠ [] := fun hnil => hplace (by rw [hnil])
        simp [hmore]
      | cons c rest => rfl

/-- The path without its last name has the other names. -/
theorem names_parent (p : Path) : names (parent p) = (names p).dropLast := by
  have hnames := filter_dropLast_upToPlace true (pieces p)
  rw [← filter_upToPlace true] at hnames
  rw [parent, names, names, ← hnames]
  split
  · rename_i hnone
    rw [hnone]
    cases isAbsolute p <;> rfl
  · rename_i hkept
    rw [pieces, Pieces.splitOn_joined hkept]
    intro piece hmem
    exact Pieces.notMem_of_mem_splitOn ((upToPlace_dropLast_begins (pieces p)).subset hmem)

/-! ## Splitting -/

/-- The directory and the name of a file, put together again. -/
def rejoined (p : Path) : Path := join (split p).1 (split p).2

/-- The name of a file is the last name in its path. -/
theorem names_of_fileName? {p name : Path} (h : fileName? p = some name) :
    names p = (names p).dropLast ++ [name] ∧ IsPiece name ∧ isName name = true := by
  obtain ⟨hlast, -⟩ := Option.filter_eq_some_iff.mp h
  obtain ⟨others, hnames⟩ := List.getLast?_eq_some_iff.mp hlast
  exact ⟨by rw [hnames, List.dropLast_concat], isPiece_of_mem_names (List.mem_of_getLast? hlast)⟩

/-- What is put together from a directory and a name has the names of the path. -/
theorem names_rejoined (p : Path) : names (rejoined p) = names p := by
  rw [rejoined, names_join, split]
  cases hfile : fileName? p with
  | none => cases isAbsolute p <;> rfl
  | some name =>
    obtain ⟨hnames, hpiece, hname⟩ := names_of_fileName? hfile
    rw [hnames, hpiece.isAbsolute, hpiece.names hname, names_parent]
    rfl

/-- What is put together from a directory and a name starts where the path starts. -/
theorem isAbsolute_rejoined (p : Path) : isAbsolute (rejoined p) = isAbsolute p := by
  rw [rejoined, isAbsolute_join_eq, split]
  cases hfile : fileName? p with
  | none => exact Bool.or_false _
  | some name =>
    obtain ⟨-, hpiece, -⟩ := names_of_fileName? hfile
    rw [hpiece.isAbsolute, isAbsolute_parent, Bool.false_or]

/-- What is put together from a directory and a name ends in a name, if the path does. -/
theorem endsInName_rejoined {p : Path} (h : endsInName p = true) :
    endsInName (rejoined p) = true := by
  rw [rejoined, endsInName_join, split]
  cases hfile : fileName? p with
  | none => exact h
  | some name =>
    obtain ⟨-, hpiece, hname⟩ := names_of_fileName? hfile
    exact hpiece.endsInName hname

/-! ## Absolute forms -/

/-- Joining names one after the other puts them behind those of the directory. -/
theorem names_foldl_join {ns : List Path} (h : ∀ name ∈ ns, IsPiece name ∧ isName name = true)
    (base : Path) : names (ns.foldl join base) = names base ++ ns := by
  induction ns generalizing base with
  | nil => exact (List.append_nil _).symm
  | cons name rest ih =>
    obtain ⟨⟨hpiece, hname⟩, hrest⟩ := List.forall_mem_cons.mp h
    rw [List.foldl_cons, ih hrest, names_join, hpiece.isAbsolute, hpiece.names hname]
    simp

/-- The absolute form of a path has the names of its place. -/
theorem names_absolute? {cwd p full : Path} (h : absolute? cwd p = some full) :
    names full = names (join cwd p) := by
  have hstart : names (start cwd p) = if isAbsolute p then [] else names cwd := by
    unfold start
    split
    · rename_i hdouble
      have habs : isAbsolute p = true := by
        rw [hasDoubleRoot, decide_eq_true_iff] at hdouble
        cases p with
        | nil => cases hdouble
        | cons b rest =>
          rw [List.takeWhile_cons] at hdouble
          by_cases hb : b = slash
          · exact decide_eq_true (congrArg some hb)
          · simp [hb] at hdouble
      rw [if_pos habs]
      rfl
    · split <;> rfl
  have hnames := names_foldl_join (fun name => isPiece_of_mem_names (p := p)) (start cwd p)
  unfold absolute? at h
  split at h
  · cases h
  · obtain rfl := Option.some.inj h
    rw [names_join, ← hstart, ← hnames]
    split
    · rw [names_join]
      exact List.append_nil _
    · rfl

/-- The absolute form of a path that ends in a name exists and ends in a name. -/
theorem exists_absolute? (cwd : Path) {p : Path} (h : endsInName p = true) :
    ∃ full, absolute? cwd p = some full ∧ endsInName full = true := by
  obtain ⟨hne, hopen⟩ := not_endsOpen_of_endsInName h
  obtain ⟨front, name, hpieces, hname⟩ := endsInName_iff.mp h
  have hnames : names p = front.filter isName ++ [name] := by
    simp [names, hpieces, hname]
  have hmem : name ∈ names p := hnames ▸ List.mem_concat_self
  refine ⟨(names p).foldl join (start cwd p), ?_, ?_⟩
  · rw [absolute?, if_neg hne, hopen]
    rfl
  · rw [hnames, List.foldl_append, List.foldl_cons, List.foldl_nil, endsInName_join]
    exact (isPiece_of_mem_names hmem).1.endsInName hname

end Path

namespace Disk

open FeatureDoc.Path

/-- What is at a path is at its place. -/
theorem node?_place {d : Disk} (hcwd : isAbsolute d.cwd = true) {p : Path} (h : p ≠ []) :
    d.node? (d.place p) = d.node? p := by
  have hplace : isAbsolute (d.place p) = true := isAbsolute_join hcwd p
  rw [node?_of_isAbsolute hplace, node?, if_neg h]

/-- A file that is asked for in its directory is the one at the path. -/
theorem exists_documentPath?_split {d : Disk} (hcwd : isAbsolute d.cwd = true) {p : Path}
    {isRegular : Bool} {content : Except DiskError Text}
    (h : d.node? p = .ok (.leaf isRegular content)) :
    ∃ full, d.documentPath? (split p).1 (split p).2 = some full ∧
      names full = names (d.place p) ∧ d.node? full = .ok (.leaf isRegular content) := by
  have hne : p ≠ [] := by
    rintro rfl
    cases h
  have hplace : isAbsolute (d.place p) = true := isAbsolute_join hcwd p
  rw [← node?_place hcwd hne] at h
  have hends := endsInName_of_leaf hplace h
  have hrejoined := endsInName_rejoined ((endsInName_join d.cwd p).symm.trans hends)
  obtain ⟨full, hfull, hname⟩ := exists_absolute? d.cwd hrejoined
  have hnames : names full = names (d.place p) := by
    rw [names_absolute? hfull, place, names_join, names_join, isAbsolute_rejoined, names_rejoined]
  refine ⟨full, hfull, hnames, ?_⟩
  rw [d.node?_congr (isAbsolute_of_absolute? hcwd hfull) hplace hnames hname hends, h]

/-! ## Loading -/

/-- What a file with some content yields under the paths that its feature keeps. -/
def loaded (path relativePath : Path) : Except DiskError Text → Except LoadError Feature
  | .error cause => .error (.unreadable path cause)
  | .ok t =>
    match parse t with
    | .ok f => .ok (f.placed path relativePath)
    | .error e => .error (.invalid { e with path := path.display })

/-- What is loaded at the path of a file is what the content of the file yields. -/
theorem load_of_leaf {d : Disk} {base file path : Path} {isRegular : Bool}
    {content : Except DiskError Text} (hpath : d.documentPath? base file = some path)
    (hleaf : d.node? path = .ok (.leaf isRegular content)) :
    (d.load base file).result = loaded path (relativePath base file) content := by
  have hne : path ≠ [] := by
    rintro rfl
    cases hleaf
  have hread : d.readText path = content := by rw [readText, hleaf]
  cases content with
  | error cause => simp only [load, hpath, hread, loaded]
  | ok t =>
    simp only [load, hpath, hread, loaded]
    rcases readDocument_result path (relativePath base file) t with
      ⟨f, hparse, hresult⟩ | ⟨e, hparse, hresult⟩
    · rw [hresult, hparse]
      rfl
    · have hlabel : (Feature.empty path (relativePath base file)).pathLabel = path.display :=
        if_neg hne
      rw [hresult, hparse, hlabel]
      rfl

/-- What is loaded for a file in its directory is what the content of the file yields, under an
absolute path of the file. -/
theorem load_split_of_leaf {d : Disk} (hcwd : isAbsolute d.cwd = true) {p : Path}
    {isRegular : Bool} {content : Except DiskError Text}
    (h : d.node? p = .ok (.leaf isRegular content)) :
    ∃ path relativePath, isAbsolute path = true ∧ names path = names (d.place p) ∧
      (d.load (split p).1 (split p).2).result = loaded path relativePath content := by
  obtain ⟨path, hpath, hnames, hleaf⟩ := exists_documentPath?_split hcwd h
  exact ⟨path, _, isAbsolute_of_absolute? hcwd hpath, hnames, load_of_leaf hpath hleaf⟩

end Disk

end FeatureDoc
