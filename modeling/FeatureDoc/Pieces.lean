/-
# Pieces between separators

A list is cut into pieces at the occurrences of a separator, and pieces are joined with something
between two of them. Texts are cut at characters and paths at bytes.

* `joined_splitOn` : splitting loses nothing;
* `splitOn_joined` : pieces without the separator are found again.
-/

namespace FeatureDoc.Pieces

variable {α : Type}

/-- The pieces in a row, with something between two of them. -/
def joined (between : List α) (pieces : List (List α)) : List α := between.intercalate pieces

/-- The last of joined pieces stands behind the others. -/
theorem joined_concat (between : List α) {pieces : List (List α)} (hne : pieces ≠ [])
    (last : List α) :
    joined between (pieces ++ [last]) = joined between pieces ++ between ++ last := by
  induction pieces with
  | nil => exact absurd rfl hne
  | cons piece more ih =>
    cases more with
    | nil => simp [joined, List.intercalate]
    | cons next rest =>
      have hrest := ih (List.cons_ne_nil _ _)
      simp [joined, List.intercalate] at hrest ⊢
      exact hrest

variable [DecidableEq α]

/-- The pieces between the occurrences of a separator; there is always at least one piece. -/
def splitOn (separator : α) : List α → List (List α)
  | [] => [[]]
  | c :: rest =>
    if c = separator then [] :: splitOn separator rest
    else match splitOn separator rest with
      | [] => [[c]]
      | piece :: more => (c :: piece) :: more

/-- There is always at least one piece. -/
theorem splitOn_ne_nil (c : α) (t : List α) : splitOn c t ≠ [] := by
  induction t with
  | nil => simp [splitOn]
  | cons d t ih =>
    unfold splitOn
    split
    · exact List.cons_ne_nil _ _
    · split <;> exact List.cons_ne_nil _ _

/-- Splitting loses nothing: the pieces put together again are the list. -/
theorem joined_splitOn (c : α) (t : List α) : joined [c] (splitOn c t) = t := by
  induction t with
  | nil => rfl
  | cons d t ih =>
    unfold splitOn
    split
    · rename_i same
      subst same
      cases pieces : splitOn d t with
      | nil => exact absurd pieces (splitOn_ne_nil d t)
      | cons piece more =>
        rw [pieces] at ih
        simp [joined, List.intercalate, ← ih]
    · split
      · rename_i nothing
        exact absurd nothing (splitOn_ne_nil c t)
      · rename_i piece more pieces
        rw [pieces] at ih
        rw [← ih]
        cases more <;> simp [joined, List.intercalate, List.intersperse]

/-- No piece holds the separator. -/
theorem notMem_of_mem_splitOn {c : α} {t piece : List α} (h : piece ∈ splitOn c t) :
    c ∉ piece := by
  induction t generalizing piece with
  | nil => simp [splitOn] at h; simp [h]
  | cons d t ih =>
    unfold splitOn at h
    split at h
    · rcases List.mem_cons.mp h with rfl | later
      · exact List.not_mem_nil
      · exact ih later
    · rename_i different
      split at h
      · rename_i nothing
        exact absurd nothing (splitOn_ne_nil c t)
      · rename_i first more pieces
        rcases List.mem_cons.mp h with rfl | later
        · have : c ∉ first := ih (by simp [pieces])
          simp [this, Ne.symm different]
        · exact ih (by simp [pieces, later])

/-- A list without the separator is a single piece. -/
theorem splitOn_eq_singleton {c : α} {t : List α} (h : c ∉ t) : splitOn c t = [t] := by
  induction t with
  | nil => rfl
  | cons d t ih =>
    obtain ⟨hd, ht⟩ := not_or.mp (mt List.mem_cons.mpr h)
    rw [splitOn, if_neg (Ne.symm hd), ih ht]

/-- Two lists with the separator between them have the pieces of both. -/
theorem splitOn_append (c : α) (t u : List α) :
    splitOn c (t ++ c :: u) = splitOn c t ++ splitOn c u := by
  induction t with
  | nil => simp [splitOn]
  | cons d t ih =>
    rw [List.cons_append, splitOn, splitOn, ih]
    split
    · rfl
    · cases pieces : splitOn c t with
      | nil => exact absurd pieces (splitOn_ne_nil c t)
      | cons piece more => rfl

/-- Pieces without the separator are the pieces of the list that is joined from them. -/
theorem splitOn_joined {c : α} {pieces : List (List α)} (hne : pieces ≠ [])
    (h : ∀ piece ∈ pieces, c ∉ piece) : splitOn c (joined [c] pieces) = pieces := by
  induction pieces with
  | nil => exact absurd rfl hne
  | cons piece more ih =>
    obtain ⟨hpiece, hmore⟩ := List.forall_mem_cons.mp h
    cases more with
    | nil => simpa [joined, List.intercalate] using splitOn_eq_singleton hpiece
    | cons next rest =>
      have step : joined [c] (piece :: next :: rest) = piece ++ c :: joined [c] (next :: rest) := by
        simp [joined, List.intercalate]
      rw [step, splitOn_append, splitOn_eq_singleton hpiece, ih (List.cons_ne_nil _ _) hmore]
      rfl

end FeatureDoc.Pieces
