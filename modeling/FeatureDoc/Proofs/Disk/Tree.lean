/-
# Trees of directories

In a tidy tree the entries of a directory have proper names, each once and in increasing order.
Trees are built up tidily. Below a directory, names lead to the same node wherever the directory
is, and a path to that node is the path of the directory with these names behind it.

* `Node.tidy_put` : building up a tree leaves it tidy;
* `Disk.tidy_of_node?` : what is at a path of a tidy disk is tidy;
* `Disk.node?_below` : what is below a directory is found from the directory.
-/
import FeatureDoc.Proofs.Disk.Splitting

namespace FeatureDoc

namespace Path

/-! ## Names below a directory -/

/-- A name that an entry of a directory can have. -/
structure IsFileName (name : Path) : Prop where
  piece : IsPiece name
  isName : Path.isName name = true
  ne_above : name ≠ above

/-- The names in a path can be names of entries, unless they lead up. -/
theorem isFileName_of_mem_names {p name : Path} (h : name ∈ names p) (hne : name ≠ above) :
    IsFileName name :=
  ⟨(isPiece_of_mem_names h).1, (isPiece_of_mem_names h).2, hne⟩

/-- Paths are joined in any order. -/
theorem join_assoc (a b c : Path) : join a (join b c) = join (join a b) c := by
  by_cases hc : isAbsolute c = true
  · rw [join_of_isAbsolute hc, join_of_isAbsolute hc, join_of_isAbsolute hc]
  by_cases hb : isAbsolute b = true
  · have hboth : isAbsolute (join b c) = true := isAbsolute_join hb c
    rw [join_of_isAbsolute hboth, join_of_isAbsolute hb]
  have hboth : ¬isAbsolute (join b c) = true := by
    rw [isAbsolute_join_eq]
    simp [hb, hc]
  have hjoin : ∀ base file : Path, ¬isAbsolute file = true →
      join base file = if base = [] ∨ endsOpen base then base ++ file else base ++ slash :: file :=
    fun base file h => if_neg h
  rw [hjoin b c hc] at hboth ⊢
  rw [hjoin a _ hboth, hjoin _ c hc, hjoin a b hb]
  -- the second path ends as it does behind the first one
  have hends : ∀ t : Path, b ≠ [] → endsOpen (t ++ b) = endsOpen b := by
    intro t hne
    rw [endsOpen, endsOpen, List.getLast?_append_of_ne_nil t hne]
  by_cases hnil : b = []
  · by_cases ha : a = [] ∨ endsOpen a = true
    · simp [ha, hnil]
    · have hslash : endsOpen (a ++ [slash]) = true := by simp [endsOpen]
      simp [ha, hnil, hslash]
  · by_cases ha : a = [] ∨ endsOpen a = true
    · rw [if_pos ha, if_pos ha, hends a hnil]
      split <;> simp_all
    · have hslash : endsOpen (a ++ slash :: b) = endsOpen b := by
        simpa using hends (a ++ [slash]) hnil
      rw [if_neg ha, if_neg ha, hslash]
      split <;> simp_all

/-- Names behind a directory are the last pieces of the path. -/
theorem pieces_foldl_join {ns : List Path} (h : ∀ n ∈ ns, IsFileName n) (hne : ns ≠ [])
    (base : Path) : pieces (ns.foldl join base) = lead base ++ ns := by
  induction ns generalizing base with
  | nil => exact absurd rfl hne
  | cons n rest ih =>
    obtain ⟨hn, hrest⟩ := List.forall_mem_cons.mp h
    have hfirst : pieces (join base n) = lead base ++ [n] := by
      rw [pieces_join base hn.piece.isAbsolute]
      exact congrArg (lead base ++ ·) (Pieces.splitOn_eq_singleton hn.piece)
    rw [List.foldl_cons]
    by_cases hnil : rest = []
    · rw [hnil]
      exact hfirst
    · -- a path that ends in a name keeps all its pieces
      have hends : endsInName (join base n) = true := by
        rw [endsInName_join]
        exact hn.piece.endsInName hn.isName
      obtain ⟨hfull, hclosed⟩ := not_endsOpen_of_endsInName hends
      have hlead : lead (join base n) = pieces (join base n) :=
        if_neg (not_or.mpr ⟨hfull, by simp [hclosed]⟩)
      rw [ih hrest hnil, hlead, hfirst, List.append_assoc, List.singleton_append]

/-- The names of the path come after those of the directory. -/
theorem names_below {ns : List Path} (h : ∀ n ∈ ns, IsFileName n) (base : Path) :
    names (ns.foldl join base) = names base ++ ns :=
  names_foldl_join (fun n hn => ⟨(h n hn).piece, (h n hn).isName⟩) base

/-- The place of a path below a directory is below the place of the directory. -/
theorem join_foldl_join (cwd base : Path) (ns : List Path) :
    join cwd (ns.foldl join base) = ns.foldl join (join cwd base) := by
  induction ns generalizing base with
  | nil => rfl
  | cons n rest ih => rw [List.foldl_cons, ih, join_assoc, List.foldl_cons]

end Path

/-! ## Tidy trees -/

namespace Node

/-- A tree in which each directory can be listed, and its entries have proper names, each once and
in increasing order. -/
inductive Tidy : Node → Prop where
  | leaf (isRegular : Bool) (content : Except DiskError Text) : Tidy (.leaf isRegular content)
  | directory {entries : List (Path × Node)}
      (named : ∀ entry ∈ entries, Path.IsFileName entry.1)
      (increasing : (Dictionary.names entries).Pairwise (· < ·))
      (below : ∀ entry ∈ entries, Tidy entry.2) : Tidy (.directory entries)

/-- The entries of a tidy tree make a tidy directory. -/
theorem Tidy.directory_entries {node : Node} (h : node.Tidy) : Tidy (.directory node.entries) := by
  cases h with
  | leaf isRegular content => exact .directory (by simp [entries]) .nil (by simp [entries])
  | directory named increasing below => exact .directory named increasing below

/-- With other entries a tidy tree is a directory that can be listed. -/
theorem Tidy.withEntries_eq {node : Node} (h : node.Tidy) (entries : List (Path × Node)) :
    node.withEntries entries = .directory entries := by
  cases h <;> rfl

/-- A tidy directory stays tidy with one more entry. -/
theorem Tidy.insert {entries : List (Path × Node)} {name : Path} {node : Node}
    (h : Tidy (.directory entries)) (hname : Path.IsFileName name) (hnode : node.Tidy) :
    Tidy (.directory (Dictionary.insert name node entries)) := by
  cases h with
  | directory named increasing below =>
    refine .directory (fun entry hentry => ?_)
      (Dictionary.pairwise_names_insert name node increasing) fun entry hentry => ?_
    · rcases Dictionary.eq_or_mem_of_mem_insert hentry with rfl | hmem
      · exact hname
      · exact named entry hmem
    · rcases Dictionary.eq_or_mem_of_mem_insert hentry with rfl | hmem
      · exact hnode
      · exact below entry hmem

/-- What is found in a tidy directory is tidy, and has a proper name. -/
theorem Tidy.find? {entries : List (Path × Node)} {name : Path} {node : Node}
    (h : Tidy (.directory entries)) (hfind : Dictionary.find? name entries = some node) :
    Path.IsFileName name ∧ node.Tidy := by
  cases h with
  | directory named increasing below =>
    have hmem := Dictionary.mem_of_find?_eq_some hfind
    exact ⟨named _ hmem, below _ hmem⟩

/-- The entry of a name in a directory is what is found under this name. -/
theorem child?_eq_ok_iff {isListed : Bool} {entries : List (Path × Node)} {name : Path}
    {found : Node} : (tree isListed entries).child? name = .ok found ↔
      Dictionary.find? name entries = some found := by
  rw [child?]
  cases Dictionary.find? name entries <;> simp

/-- The entries of a tidy tree are tidy. -/
theorem Tidy.of_entry {node found : Node} {name : Path} (h : node.Tidy)
    (hentry : node.child? name = .ok found) : found.Tidy := by
  cases h with
  | leaf isRegular content => cases hentry
  | @directory entries named increasing below =>
    exact below _ (Dictionary.mem_of_find?_eq_some (child?_eq_ok_iff.mp hentry))

/-- Putting a tidy node into a tidy tree leaves it tidy. -/
theorem tidy_put {node tree : Node} {ns : List Path} (hnode : node.Tidy)
    (hns : ∀ n ∈ ns, Path.IsFileName n) (h : tree.Tidy) : (node.put ns tree).Tidy := by
  induction ns generalizing tree with
  | nil => exact hnode
  | cons n rest ih =>
    obtain ⟨hn, hrest⟩ := List.forall_mem_cons.mp hns
    rw [put, h.withEntries_eq]
    refine h.directory_entries.insert hn (ih hrest ?_)
    cases hfind : Dictionary.find? n tree.entries with
    | none => exact .directory (by simp) .nil (by simp)
    | some below => exact (h.directory_entries.find? hfind).2

end Node

namespace Disk

open FeatureDoc.Path

/-- A disk with nothing but its current directory is tidy. -/
theorem tidy_empty {cwd : Path} (h : above ∉ names cwd) : (empty cwd).root.Tidy :=
  Node.tidy_put (.directory (by simp) .nil (by simp))
    (fun _ hn => isFileName_of_mem_names hn fun heq => h (heq ▸ hn))
    (.directory (by simp) .nil (by simp))

/-- Putting a tidy node at a path that does not lead up leaves a disk tidy. -/
theorem tidy_put {d : Disk} {p : Path} {node : Node} (hp : above ∉ names (d.place p))
    (hnode : node.Tidy) (h : d.root.Tidy) : (d.put p node).root.Tidy :=
  Node.tidy_put hnode (fun _ hn => isFileName_of_mem_names hn fun heq => hp (heq ▸ hn)) h

/-- One piece of a path leads from tidy trees to tidy trees. -/
theorem tidy_of_step {node : Node} {parents : List Node} {piece : Path}
    {next : Node × List Node} (h : node.Tidy) (hparents : ∀ parent ∈ parents, parent.Tidy)
    (hstep : step node parents piece = .ok next) :
    next.1.Tidy ∧ ∀ parent ∈ next.2, parent.Tidy := by
  cases node with
  | leaf isRegular content => cases hstep
  | tree isListed entries =>
    unfold step at hstep
    simp only at hstep
    split at hstep
    · cases parents with
      | nil =>
        obtain rfl := Except.ok.inj hstep
        exact ⟨h, hparents⟩
      | cons parent parents =>
        obtain rfl := Except.ok.inj hstep
        exact List.forall_mem_cons.mp hparents
    · split at hstep
      · obtain ⟨found, hentry, rfl⟩ := exists_of_map_eq_ok hstep
        exact ⟨h.of_entry hentry, List.forall_mem_cons.mpr ⟨h, hparents⟩⟩
      · obtain rfl := Except.ok.inj hstep
        exact ⟨h, hparents⟩

/-- What is found in a tidy tree is tidy. -/
theorem tidy_of_follow {node found : Node} {parents : List Node} {ps : List Path}
    (h : node.Tidy) (hparents : ∀ parent ∈ parents, parent.Tidy)
    (hfollow : follow node parents ps = .ok found) : found.Tidy := by
  induction ps generalizing node parents with
  | nil =>
    obtain rfl := Except.ok.inj hfollow
    exact h
  | cons piece rest ih =>
    rw [follow_cons] at hfollow
    obtain ⟨next, hstep, hnext⟩ := exists_of_bind_eq_ok hfollow
    obtain ⟨hnode, habove⟩ := tidy_of_step h hparents hstep
    exact ih hnode habove hnext

/-- What is at a path of a tidy disk is tidy. -/
theorem tidy_of_node? {d : Disk} (h : d.root.Tidy) {p : Path} {node : Node}
    (hnode : d.node? p = .ok node) : node.Tidy := by
  rw [node?] at hnode
  split at hnode
  · cases hnode
  · exact tidy_of_follow h (List.forall_mem_nil _) hnode

/-! ## Ways below a directory -/

/-- Behind the way to a node the way goes on from there. -/
theorem follow_append {node found : Node} {parents : List Node} {front : List Path}
    (h : follow node parents front = .ok found) :
    ∃ above, ∀ back, follow node parents (front ++ back) = follow found above back := by
  induction front generalizing node parents with
  | nil =>
    obtain rfl := Except.ok.inj h
    exact ⟨parents, fun _ => rfl⟩
  | cons piece rest ih =>
    rw [follow_cons] at h
    obtain ⟨next, hstep, hnext⟩ := exists_of_bind_eq_ok h
    obtain ⟨above, hback⟩ := ih hnext
    refine ⟨above, fun back => ?_⟩
    rw [List.cons_append, follow_cons, hstep]
    exact hback back

/-- The way to a directory does not need an empty piece at its end. -/
theorem follow_of_concat_nil {node found : Node} {parents : List Node} {front : List Path}
    (h : follow node parents (front ++ [[]]) = .ok found) :
    follow node parents front = .ok found := by
  induction front generalizing node parents with
  | nil =>
    rw [List.nil_append, follow_cons, step_of_isName_eq_false rfl] at h
    cases node with
    | leaf isRegular content => cases h
    | tree isListed entries => exact h
  | cons piece rest ih =>
    rw [List.cons_append, follow_cons] at h
    obtain ⟨next, hstep, hnext⟩ := exists_of_bind_eq_ok h
    rw [follow_cons, hstep]
    exact ih hnext

/-- From a directory a name leads to its entry. -/
theorem step_name {n : Path} (h : IsFileName n) (isListed : Bool) (entries : List (Path × Node))
    (parents : List Node) : step (.tree isListed entries) parents n =
      (Node.child? (.tree isListed entries) n).map fun found =>
        (found, .tree isListed entries :: parents) := by
  unfold step
  simp [h.ne_above, h.isName]

/-- Names lead on whatever is above. -/
theorem follow_congr_above {ns : List Path} (h : ∀ n ∈ ns, IsFileName n) (node : Node)
    (parents parents' : List Node) : follow node parents ns = follow node parents' ns := by
  induction ns generalizing node parents parents' with
  | nil => rfl
  | cons n rest ih =>
    obtain ⟨hn, hrest⟩ := List.forall_mem_cons.mp h
    cases node with
    | leaf isRegular content => rfl
    | tree isListed entries =>
      rw [follow_cons, follow_cons, step_name hn, step_name hn]
      cases Node.child? (.tree isListed entries) n with
      | error e => rfl
      | ok found => exact ih hrest _ _ _

/-- From a directory names lead to an entry, and on from there. -/
theorem follow_name {n : Path} {rest : List Path} (h : ∀ m ∈ n :: rest, IsFileName m)
    (isListed : Bool) (entries : List (Path × Node)) :
    follow (.tree isListed entries) [] (n :: rest) =
      Node.child? (.tree isListed entries) n >>= fun found => follow found [] rest := by
  obtain ⟨hn, hrest⟩ := List.forall_mem_cons.mp h
  rw [follow_cons, step_name hn]
  cases Node.child? (.tree isListed entries) n with
  | error e => rfl
  | ok found => exact follow_congr_above hrest found _ _

/-- What is below a directory is found from the directory. -/
theorem node?_below {d : Disk} {path : Path} {isListed : Bool} {entries : List (Path × Node)}
    (h : d.node? path = .ok (.tree isListed entries)) {ns : List Path} (hne : ns ≠ [])
    (hns : ∀ n ∈ ns, IsFileName n) :
    d.node? (ns.foldl join path) = follow (.tree isListed entries) [] ns := by
  have hpath : follow d.root [] (pieces (d.place path)) = .ok (.tree isListed entries) := by
    rw [node?] at h
    split at h
    · cases h
    · exact h
  have hlead : follow d.root [] (lead (d.place path)) = .ok (.tree isListed entries) := by
    rcases pieces_eq_lead_or (d.place path) with hpieces | hpieces
    · rwa [hpieces] at hpath
    · rw [hpieces] at hpath
      exact follow_of_concat_nil hpath
  obtain ⟨above, hback⟩ := follow_append hlead
  have hfull : ns.foldl join path ≠ [] := by
    intro hnil
    have hnames := names_below hns path
    rw [hnil] at hnames
    exact hne (List.append_eq_nil_iff.mp hnames.symm).2
  rw [node?, if_neg hfull, place, join_foldl_join, pieces_foldl_join hns hne, ← place, hback,
    follow_congr_above hns _ above []]

end Disk

end FeatureDoc
