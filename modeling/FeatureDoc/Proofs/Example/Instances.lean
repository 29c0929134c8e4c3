/-
# The instances of a scenario

A scenario runs once for every way to pick a row from each of its groups. A way to pick is the list
of the numbers of the rows, and the ways are in lexicographic order, so that the row of the first
group varies slowest.

* `Group.picks` : the ways to pick; `Group.mem_picks`, `Group.pairwise_picks` : they are all ways,
  in increasing order and hence each once;
* `instances_eq` : an instance holds the bindings of the picked rows, group after group.
-/
import FeatureDoc.Example.Combination
import FeatureDoc.Proofs.Feature.Rectangle
import Mathlib.Data.List.Forall2
import Mathlib.Data.List.Lex

namespace FeatureDoc

namespace Group

/-! ## Ways to pick rows -/

/-- Every way to pick a row from each group, by the numbers of the rows. -/
def picks : List Group → List (List Nat)
  | [] => [[]]
  | g :: rest => (List.range g.rows.length).flatMap fun i => (picks rest).map (i :: ·)

/-- The ways to pick are the lists of numbers of rows, one number for each group. -/
theorem mem_picks {groups : List Group} {pick : List Nat} :
    pick ∈ picks groups ↔ List.Forall₂ (fun i g => i < g.rows.length) pick groups := by
  induction groups generalizing pick with
  | nil => simp [picks]
  | cons g rest ih =>
    rw [picks, List.mem_flatMap]
    constructor
    · rintro ⟨i, hi, hpick⟩
      obtain ⟨others, hothers, rfl⟩ := List.mem_map.mp hpick
      exact .cons (List.mem_range.mp hi) (ih.mp hothers)
    · rintro (_ | ⟨hi, hothers⟩)
      exact ⟨_, List.mem_range.mpr hi, List.mem_map_of_mem (ih.mpr hothers)⟩

/-- The ways to pick are in lexicographic order, each once. -/
theorem pairwise_picks (groups : List Group) : (picks groups).Pairwise (· < ·) := by
  induction groups with
  | nil => exact List.pairwise_singleton _ _
  | cons g rest ih =>
    rw [picks, List.pairwise_flatMap]
    constructor
    · -- the same row of the first group: the other groups decide
      intro i _
      rw [List.pairwise_map]
      exact ih.imp fun hlt => List.cons_lt_cons_iff.mpr (Or.inr ⟨rfl, hlt⟩)
    · -- another row of the first group: it decides
      refine List.pairwise_lt_range.imp fun hlt => ?_
      intro x hx y hy
      obtain ⟨_, -, rfl⟩ := List.mem_map.mp hx
      obtain ⟨_, -, rfl⟩ := List.mem_map.mp hy
      exact List.cons_lt_cons_iff.mpr (Or.inl hlt)

/-! ## The rows that are picked -/

/-- The bindings of the row with the given number. -/
def bindingsAt (g : Group) (i : Nat) : Row := (g.bindings[i]?).getD []

/-- The bindings of the rows that are picked, group after group. -/
def pickRows (groups : List Group) (pick : List Nat) : Row :=
  (List.zipWith bindingsAt groups pick).flatten

/-- The rows of a group by their numbers. -/
theorem map_bindingsAt (g : Group) : (List.range g.rows.length).map g.bindingsAt = g.bindings := by
  have hlength : g.rows.length = g.bindings.length := (List.length_map _).symm
  rw [hlength]
  exact ExampleBlock.map_range_getD g.bindings []

end Group

/-- Combining groups with rows that have been combined before appends to each of these. -/
theorem foldl_instances (groups : List Group) (rows : List Row) :
    groups.foldl (fun rows g => rows.flatMap fun row => g.bindings.map (row ++ ·)) rows =
      rows.flatMap fun row => (Group.picks groups).map fun pick =>
        row ++ Group.pickRows groups pick := by
  induction groups generalizing rows with
  | nil => simp [Group.picks, Group.pickRows]
  | cons g rest ih =>
    rw [List.foldl_cons, ih, List.flatMap_assoc]
    congr 1
    funext row
    rw [← Group.map_bindingsAt, Group.picks, List.map_map, List.flatMap_map,
      List.map_flatMap]
    congr 1
    funext i
    simp [Group.pickRows, List.append_assoc]

/-- Every way to pick one row from each group makes an instance, in the order of the ways: the
bindings of the picked rows, group after group. -/
theorem instances_eq (groups : List Group) :
    instances groups = (Group.picks groups).map (Group.pickRows groups) := by
  rw [instances, foldl_instances]
  simp

end FeatureDoc
