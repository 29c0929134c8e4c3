/-
# What is found at a path

What an absolute path leads to is settled by the names in it, as long as it ends in one. A path
that goes on behind the last name asks for a directory there.

* `Disk.follow_concat` : what pieces lead to is what the names among them lead to;
* `Disk.readText_congr` : two spellings of a path lead to the same text.
-/
import FeatureDoc.Disk.Basic
import FeatureDoc.Proofs.Success

namespace FeatureDoc

namespace Path

/-- Whether a path ends in a name, and not in a slash or in a dot behind one. -/
def endsInName (p : Path) : Bool := (pieces p).getLast?.any isName

/-- A path that ends in a name has some pieces and then this name. -/
theorem endsInName_iff {p : Path} :
    endsInName p = true ↔ ∃ front name, pieces p = front ++ [name] ∧ isName name = true := by
  rw [endsInName, Option.any_eq_true]
  constructor
  · rintro ⟨name, hlast, hname⟩
    obtain ⟨front, hpieces⟩ := List.getLast?_eq_some_iff.mp hlast
    exact ⟨front, name, hpieces, hname⟩
  · rintro ⟨front, name, hpieces, hname⟩
    exact ⟨name, by rw [hpieces, List.getLast?_concat], hname⟩

/-! ## Absolute paths -/

/-- A joined path starts at the root if one of its parts does. -/
theorem isAbsolute_join_eq (base file : Path) :
    isAbsolute (join base file) = (isAbsolute file || isAbsolute base) := by
  cases hfile : isAbsolute file with
  | true => rw [join_of_isAbsolute hfile, hfile, Bool.true_or]
  | false =>
    rw [Bool.false_or, join, if_neg (by simp [hfile])]
    cases base with
    | nil => exact hfile
    | cons c rest => split <;> rfl

/-- Joining leads on from where the path starts. -/
theorem isAbsolute_join {base : Path} (h : isAbsolute base = true) (file : Path) :
    isAbsolute (join base file) = true := by
  rw [isAbsolute_join_eq, h, Bool.or_true]

/-- The absolute form of a path starts at the root, if the current directory does. -/
theorem isAbsolute_of_absolute? {cwd p full : Path} (hcwd : isAbsolute cwd = true)
    (h : absolute? cwd p = some full) : isAbsolute full = true := by
  have hstart : isAbsolute (start cwd p) = true := by
    unfold start
    split
    · rfl
    · split
      · rfl
      · exact hcwd
  have hnames : ∀ (ns : List Path) (base : Path), isAbsolute base = true →
      isAbsolute (ns.foldl join base) = true := by
    intro ns
    induction ns with
    | nil => exact fun base hbase => hbase
    | cons name rest ih => exact fun base hbase => ih _ (isAbsolute_join hbase name)
  unfold absolute? at h
  split at h
  · cases h
  · obtain rfl := Option.some.inj h
    split
    · exact isAbsolute_join (hnames _ _ hstart) []
    · exact hnames _ _ hstart

end Path

namespace Disk

open FeatureDoc.Path

/-! ## Pieces and names -/

/-- Where one piece of a path leads from a node, with the directories above. -/
def step (node : Node) (parents : List Node) (piece : Path) :
    Except DiskError (Node × List Node) :=
  match node with
  | .leaf .. => .error .notDirectory
  | .tree .. =>
    if piece = above then
      match parents with
      | [] => .ok (node, [])
      | parent :: parents => .ok (parent, parents)
    else if isName piece then (node.child? piece).map fun found => (found, node :: parents)
    else .ok (node, parents)

/-- A path is followed piece by piece. -/
theorem follow_cons (node : Node) (parents : List Node) (piece : Path) (rest : List Path) :
    follow node parents (piece :: rest) =
      step node parents piece >>= fun next => follow next.1 next.2 rest := by
  cases node with
  | leaf isRegular content => rfl
  | tree isListed entries =>
    rw [follow.eq_def]
    unfold step
    by_cases habove : piece = above
    · simp only [if_pos habove]
      cases parents <;> rfl
    · simp only [if_neg habove]
      by_cases hname : isName piece = true
      · simp only [if_pos hname]
        cases Node.child? (.tree isListed entries) piece <;> rfl
      · simp only [if_neg hname]
        rfl

/-- A piece that is no name stays in a directory, and a file has nothing below it. -/
theorem step_of_isName_eq_false {piece : Path} (h : isName piece = false) (node : Node)
    (parents : List Node) : step node parents piece =
      match node with
      | .leaf .. => .error .notDirectory
      | .tree .. => .ok (node, parents) := by
  have habove : ¬piece = above := by
    rintro rfl
    cases h
  cases node with
  | leaf isRegular content => rfl
  | tree isListed entries =>
    unfold step
    simp [habove, h]

/-- Pieces that end in a name lead to what the names among them lead to. -/
theorem follow_concat {name : Path} (h : isName name = true) (node : Node) (parents : List Node)
    (front : List Path) :
    follow node parents (front ++ [name]) =
      follow node parents ((front ++ [name]).filter isName) := by
  induction front generalizing node parents with
  | nil => simp [h]
  | cons piece rest ih =>
    rw [List.cons_append]
    cases hpiece : isName piece with
    | true =>
      rw [List.filter_cons_of_pos hpiece, follow_cons, follow_cons]
      simp only [ih]
    | false =>
      rw [List.filter_cons_of_neg (by simp [hpiece]), follow_cons, step_of_isName_eq_false hpiece,
        ← ih]
      cases node with
      | leaf isRegular content => cases rest <;> rfl
      | tree isListed entries => rfl

/-- Only pieces that end in a name lead to something other than a directory. -/
theorem isName_of_follow_concat {node : Node} {parents : List Node} {front : List Path}
    {piece : Path} {isRegular : Bool} {content : Except DiskError Text}
    (h : follow node parents (front ++ [piece]) = .ok (.leaf isRegular content)) :
    isName piece = true := by
  induction front generalizing node parents with
  | nil =>
    cases hpiece : isName piece with
    | true => rfl
    | false =>
      rw [List.nil_append, follow_cons, step_of_isName_eq_false hpiece] at h
      cases node <;> cases h
  | cons first rest ih =>
    rw [List.cons_append, follow_cons] at h
    obtain ⟨next, -, hnext⟩ := exists_of_bind_eq_ok h
    exact ih hnext

/-! ## Texts of files -/

/-- A text is read where a path leads to something that yields it. -/
theorem readText_eq_ok_iff {d : Disk} {p : Path} {t : Text} :
    d.readText p = .ok t ↔ ∃ isRegular, d.node? p = .ok (.leaf isRegular (.ok t)) := by
  unfold readText
  split <;> simp_all

/-- What is at an absolute path is found from the root. -/
theorem node?_of_isAbsolute {d : Disk} {p : Path} (h : isAbsolute p = true) :
    d.node? p = follow d.root [] (pieces p) := by
  have hne : p ≠ [] := by
    rintro rfl
    cases h
  rw [node?, if_neg hne, place, join_of_isAbsolute h]

/-- An absolute path that ends in a name leads where its names lead. -/
theorem node?_of_endsInName {d : Disk} {p : Path} (h : isAbsolute p = true)
    (hname : endsInName p = true) : d.node? p = follow d.root [] (names p) := by
  obtain ⟨front, name, hpieces, hname⟩ := endsInName_iff.mp hname
  rw [node?_of_isAbsolute h, names, hpieces, follow_concat hname]

/-- A path at which something other than a directory is ends in a name. -/
theorem endsInName_of_leaf {d : Disk} {p : Path} {isRegular : Bool}
    {content : Except DiskError Text} (h : isAbsolute p = true)
    (hleaf : d.node? p = .ok (.leaf isRegular content)) : endsInName p = true := by
  rw [node?_of_isAbsolute h] at hleaf
  have hne : pieces p ≠ [] := Pieces.splitOn_ne_nil _ _
  rw [← List.dropLast_concat_getLast hne] at hleaf
  exact endsInName_iff.mpr ⟨_, _, (List.dropLast_concat_getLast hne).symm,
    isName_of_follow_concat hleaf⟩

/-- A path at which a text is read ends in a name. -/
theorem endsInName_of_readText {d : Disk} {p : Path} {t : Text} (h : isAbsolute p = true)
    (hread : d.readText p = .ok t) : endsInName p = true := by
  obtain ⟨isRegular, hleaf⟩ := readText_eq_ok_iff.mp hread
  exact endsInName_of_leaf h hleaf

/-- Two spellings of a path that end in a name lead to the same place. -/
theorem node?_congr (d : Disk) {p p' : Path} (h : isAbsolute p = true)
    (h' : isAbsolute p' = true) (hnames : names p = names p') (hname : endsInName p = true)
    (hname' : endsInName p' = true) : d.node? p = d.node? p' := by
  rw [node?_of_endsInName h hname, node?_of_endsInName h' hname', hnames]

/-- Two spellings of a path that end in a name lead to the same text. -/
theorem readText_congr (d : Disk) {p p' : Path} (h : isAbsolute p = true)
    (h' : isAbsolute p' = true) (hnames : names p = names p') (hname : endsInName p = true)
    (hname' : endsInName p' = true) : d.readText p = d.readText p' := by
  rw [readText, readText, d.node?_congr h h' hnames hname hname']

end Disk

end FeatureDoc
