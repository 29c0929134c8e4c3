/-
# Increasing lists

A list in increasing order holds each of its members once, and takes up another one at its place.
-/

namespace FeatureDoc.Sorted

variable {κ : Type} [LT κ] [DecidableLT κ] [DecidableEq κ]

/-- Puts a member into an increasing list, unless it is there already. -/
def insert (a : κ) : List κ → List κ
  | [] => [a]
  | b :: rest =>
    if a < b then a :: b :: rest
    else if a = b then b :: rest
    else b :: insert a rest

/-- Putting a member in adds it and takes none away. -/
@[simp] theorem mem_insert {a c : κ} {l : List κ} : c ∈ insert a l ↔ c = a ∨ c ∈ l := by
  induction l with
  | nil => simp [insert]
  | cons b l ih =>
    unfold insert
    split
    · simp
    · split
      · rename_i same
        subst same
        simp
      · simp [ih, or_left_comm]

/-- Putting a member in keeps a list increasing. -/
theorem pairwise_insert [Trans (α := κ) (· < ·) (· < ·) (· < ·)]
    [Std.Trichotomous (α := κ) (· < ·)] (a : κ) {l : List κ} (h : l.Pairwise (· < ·)) :
    (insert a l).Pairwise (· < ·) := by
  induction l with
  | nil => exact List.pairwise_singleton _ _
  | cons b l ih =>
    obtain ⟨below, rest⟩ := List.pairwise_cons.mp h
    unfold insert
    split
    · rename_i before
      refine List.pairwise_cons.mpr ⟨fun c member => ?_, h⟩
      rcases List.mem_cons.mp member with rfl | later
      · exact before
      · exact Trans.trans before (below c later)
    · split
      · exact h
      · rename_i notBefore different
        refine List.pairwise_cons.mpr ⟨fun c member => ?_, ih rest⟩
        rcases mem_insert.mp member with rfl | later
        · -- of two members one comes before the other
          exact Decidable.byContradiction fun after =>
            different (Std.Trichotomous.trichotomous _ _ notBefore after)
        · exact below c later

end FeatureDoc.Sorted
