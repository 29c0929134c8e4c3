/-
# The margin of indented lines

With the same blanks in front of every line, the margin is wider by these blanks, and what is
right of the margin stays as it is.

* `margin_isPrefix` : every line that is not blank begins with the margin;
* `dedentLines_indented` : lines with the same blanks in front of them have the same text right of
  their margin.
-/
import FeatureDoc.Text.Margin
import FeatureDoc.Proofs.Text.Blank

namespace FeatureDoc

namespace Text

/-! ## Common beginnings -/

/-- The common beginning of two texts is a beginning of the first. -/
theorem commonLead_isPrefix_left (a b : Text) : commonLead a b <+: a := by
  induction a generalizing b with
  | nil => exact List.nil_prefix
  | cons c a ih =>
    cases b with
    | nil => exact List.nil_prefix
    | cons d b =>
      rw [commonLead]
      split
      · exact List.cons_prefix_cons.mpr ⟨rfl, ih b⟩
      · exact List.nil_prefix

/-- The common beginning of two texts is a beginning of the second. -/
theorem commonLead_isPrefix_right (a b : Text) : commonLead a b <+: b := by
  induction a generalizing b with
  | nil => exact List.nil_prefix
  | cons c a ih =>
    cases b with
    | nil => exact List.nil_prefix
    | cons d b =>
      rw [commonLead]
      split
      · exact List.cons_prefix_cons.mpr ⟨‹_›, ih b⟩
      · exact List.nil_prefix

/-- The same text in front of two texts belongs to their common beginning. -/
theorem commonLead_append (w a b : Text) :
    commonLead (w ++ a) (w ++ b) = w ++ commonLead a b := by
  induction w with
  | nil => rfl
  | cons c w ih => rw [List.cons_append, List.cons_append, commonLead, if_pos rfl, ih]; rfl

/-- The common beginning of many texts is a beginning of each of them. -/
theorem foldl_commonLead_isPrefix (first : Text) (more : List Text) :
    ∀ t ∈ first :: more, more.foldl commonLead first <+: t := by
  induction more generalizing first with
  | nil =>
    intro t ht
    rw [List.mem_singleton.mp ht]
    exact List.prefix_rfl
  | cons next more ih =>
    intro t ht
    have hboth := ih (commonLead first next) _ List.mem_cons_self
    rcases List.mem_cons.mp ht with rfl | ht
    · exact hboth.trans (commonLead_isPrefix_left t next)
    · rcases List.mem_cons.mp ht with rfl | ht
      · exact hboth.trans (commonLead_isPrefix_right first t)
      · exact ih (commonLead first next) t (List.mem_cons_of_mem _ ht)

/-- The same text in front of many texts belongs to their common beginning. -/
theorem foldl_commonLead_map_append (w first : Text) (more : List Text) :
    (more.map (w ++ ·)).foldl commonLead (w ++ first) = w ++ more.foldl commonLead first := by
  induction more generalizing first with
  | nil => rfl
  | cons next more ih => rw [List.map_cons, List.foldl_cons, commonLead_append, ih, List.foldl_cons]

/-! ## The margin -/

/-- The leading blanks of the lines that are not blank. -/
def indents (ls : List Text) : List Text := (ls.filter fun l => !isBlankLine l).map leadingBlanks

/-- The margin is part of the leading blanks of every line that is not blank. -/
theorem margin_isPrefix_leadingBlanks {ls : List Text} {l : Text} (hmem : l ∈ ls)
    (hl : isBlankLine l = false) : margin ls <+: leadingBlanks l := by
  have hindent : leadingBlanks l ∈ indents ls :=
    List.mem_map_of_mem (List.mem_filter.mpr ⟨hmem, by simp [hl]⟩)
  unfold margin
  unfold indents at hindent
  split
  · exact List.nil_prefix
  · rename_i first more hindents
    rw [hindents] at hindent
    exact foldl_commonLead_isPrefix first more _ hindent

/-- Every line that is not blank begins with the margin. -/
theorem margin_isPrefix {ls : List Text} {l : Text} (hmem : l ∈ ls)
    (hl : isBlankLine l = false) : margin ls <+: l :=
  (margin_isPrefix_leadingBlanks hmem hl).trans (List.takeWhile_prefix isBlank)

/-- The margin consists of blanks. -/
theorem isBlanks_margin (ls : List Text) : IsBlanks (margin ls) := by
  intro c hc
  by_cases hls : ∃ l ∈ ls, isBlankLine l = false
  · obtain ⟨l, hl, hblank⟩ := hls
    exact List.mem_takeWhile_imp ((margin_isPrefix_leadingBlanks hl hblank).subset hc)
  · -- without a line that counts the margin is empty
    have hnone : (ls.filter fun l => !isBlankLine l) = [] :=
      List.filter_eq_nil_iff.mpr fun l hl => by simpa using fun h => hls ⟨l, hl, h⟩
    rw [margin, hnone] at hc
    cases hc

/-- Blank lines do not count for the margin. -/
theorem margin_concat_of_isBlankLine (ls : List Text) {l : Text} (hl : isBlankLine l = true) :
    margin (ls ++ [l]) = margin ls := by
  have hfilter : (ls ++ [l]).filter (fun l => !isBlankLine l) =
      ls.filter fun l => !isBlankLine l := by
    simp [hl]
  rw [margin, hfilter, margin]

/-- With blanks in front of every line they are in front of the indents. -/
theorem indents_indented {w : Text} (hw : IsBlanks w) (ls : List Text) :
    indents (ls.map (w ++ ·)) = (indents ls).map (w ++ ·) := by
  have hblank : (fun l => !isBlankLine l) ∘ (w ++ ·) = fun l => !isBlankLine l := by
    funext l
    simp [isBlankLine_blanks_append hw]
  have hlead : leadingBlanks ∘ (w ++ ·) = (w ++ ·) ∘ leadingBlanks := by
    funext l
    exact leadingBlanks_blanks_append hw l
  rw [indents, List.filter_map, hblank, List.map_map, hlead, ← List.map_map, indents]

/-- With blanks in front of every line the margin is wider by them, if a line is not blank. -/
theorem margin_indented {w : Text} (hw : IsBlanks w) {ls : List Text} (h : indents ls ≠ []) :
    margin (ls.map (w ++ ·)) = w ++ margin ls := by
  have hindents : indents (ls.map (w ++ ·)) = _ := indents_indented hw ls
  unfold margin
  unfold indents at hindents h
  rw [hindents]
  cases hcases : (ls.filter fun l => !isBlankLine l).map leadingBlanks with
  | nil => exact absurd hcases h
  | cons first more =>
    rw [List.map_cons]
    exact foldl_commonLead_map_append w first more

/-! ## Lines without their margin -/

/-- Lines without their margin. -/
def dedentLines (ls : List Text) : List Text := ls.map (dropMargin (margin ls))

/-- A line that begins with the margin loses it. -/
theorem dropMargin_eq {m l rest : Text} (hl : isBlankLine l = false) (h : l = m ++ rest) :
    dropMargin m l = rest := by
  rw [dropMargin, hl, if_neg (by decide), after?_eq_some_iff.mpr h, Option.getD_some]

/-- Lines with the same blanks in front of them have the same text right of their margin. -/
theorem dedentLines_indented {w : Text} (hw : IsBlanks w) (ls : List Text) :
    dedentLines (ls.map (w ++ ·)) = dedentLines ls := by
  rw [dedentLines, List.map_map, dedentLines]
  apply List.map_congr_left
  intro l hl
  show dropMargin _ (w ++ l) = _
  by_cases hblank : isBlankLine l = true
  · rw [dropMargin, isBlankLine_blanks_append hw, if_pos hblank, dropMargin, if_pos hblank]
  · have hl' : isBlankLine l = false := by simpa using hblank
    obtain ⟨rest, hrest⟩ := margin_isPrefix hl hl'
    -- this line is not blank, so that the margin is wider by the blanks in front
    have hindents : indents ls ≠ [] := List.ne_nil_of_mem
      (List.mem_map_of_mem (List.mem_filter.mpr ⟨hl, by simp [hl']⟩) : leadingBlanks l ∈ indents ls)
    have hwide : isBlankLine (w ++ l) = false := by rw [isBlankLine_blanks_append hw, hl']
    have hline : w ++ l = w ++ margin ls ++ rest := by rw [List.append_assoc, hrest]
    rw [margin_indented hw hindents, dropMargin_eq hwide hline, dropMargin_eq hl' hrest.symm]

/-- A blank line below the others is nothing right of the margin. -/
theorem dedentLines_concat_of_isBlankLine (ls : List Text) {l : Text}
    (hl : isBlankLine l = true) : dedentLines (ls ++ [l]) = dedentLines ls ++ [[]] := by
  rw [dedentLines, margin_concat_of_isBlankLine ls hl, List.map_append, List.map_singleton,
    dropMargin, if_pos hl, dedentLines]

/-- What is right of the margin is part of a line. -/
theorem feed_notMem_of_mem_dedentLines {ls : List Text} (hls : ∀ l ∈ ls, '\n' ∉ l) {l : Text}
    (h : l ∈ dedentLines ls) : '\n' ∉ l := by
  obtain ⟨l', hl', rfl⟩ := List.mem_map.mp h
  by_cases hblank : isBlankLine l' = true
  · rw [dropMargin, if_pos hblank]
    exact List.not_mem_nil
  · have hfree : isBlankLine l' = false := by simpa using hblank
    obtain ⟨rest, hrest⟩ := margin_isPrefix hl' hfree
    rw [dropMargin_eq hfree hrest.symm]
    intro hmem
    exact hls l' hl' (hrest ▸ List.mem_append_right _ hmem)

/-- A blank line is nothing right of the margin. -/
theorem eq_nil_of_mem_dedentLines {ls : List Text} {l : Text} (h : l ∈ dedentLines ls)
    (hl : isBlankLine l = true) : l = [] := by
  obtain ⟨l', hl', rfl⟩ := List.mem_map.mp h
  by_cases hblank : isBlankLine l' = true
  · rw [dropMargin, if_pos hblank]
  · have hfree : isBlankLine l' = false := by simpa using hblank
    obtain ⟨rest, hrest⟩ := margin_isPrefix hl' hfree
    -- what is right of the margin is not blank either
    rw [dropMargin_eq hfree hrest.symm] at hl
    rw [← hrest, isBlankLine_blanks_append (isBlanks_margin ls), hl] at hfree
    cases hfree

end Text

end FeatureDoc
