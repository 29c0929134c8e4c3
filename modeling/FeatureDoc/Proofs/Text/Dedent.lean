/-
# Texts without their margin

Taking the margin off a text takes the same blanks from all of its lines but the blank ones, and
as many of them as possible: what is left of the lines does not begin with the same blank
everywhere. So it does not matter which blanks stand in front of all lines.

* `isPrefix_margin` : the margin is the longest run of blanks with which all lines begin;
* `lines_indentLines` : the lines of an indented text are the lines with the blanks before them;
* `dedent_takes_margin` : what is left of the lines of a text.
-/
import FeatureDoc.Proofs.Text.Lines
import FeatureDoc.Proofs.Text.Margin

namespace FeatureDoc

namespace Text

/-! ## The longest common beginning -/

/-- A beginning of two texts is one of their common beginning. -/
theorem isPrefix_commonLead {p a b : Text} (ha : p <+: a) (hb : p <+: b) :
    p <+: commonLead a b := by
  obtain ⟨a, rfl⟩ := ha
  obtain ⟨b, rfl⟩ := hb
  rw [commonLead_append]
  exact List.prefix_append _ _

/-- A beginning of many texts is one of their common beginning. -/
theorem isPrefix_foldl_commonLead {p first : Text} {more : List Text}
    (h : ∀ t ∈ first :: more, p <+: t) : p <+: more.foldl commonLead first := by
  induction more generalizing first with
  | nil => exact h first List.mem_cons_self
  | cons next more ih =>
    obtain ⟨hfirst, hrest⟩ := List.forall_mem_cons.mp h
    obtain ⟨hnext, hmore⟩ := List.forall_mem_cons.mp hrest
    exact ih (List.forall_mem_cons.mpr ⟨isPrefix_commonLead hfirst hnext, hmore⟩)

/-- Blanks with which a text begins are some of its leading blanks. -/
theorem isPrefix_leadingBlanks {p t : Text} (hp : IsBlanks p) (h : p <+: t) :
    p <+: leadingBlanks t := by
  obtain ⟨rest, rfl⟩ := h
  rw [leadingBlanks_blanks_append hp]
  exact List.prefix_append _ _

/-- The margin is the longest run of blanks with which all lines begin that are not blank. -/
theorem isPrefix_margin {p : Text} {ls : List Text} (hp : IsBlanks p)
    (h : ∀ l ∈ ls, isBlankLine l = false → p <+: l) (hls : ∃ l ∈ ls, isBlankLine l = false) :
    p <+: margin ls := by
  have hall : ∀ t ∈ indents ls, p <+: t := by
    intro t ht
    obtain ⟨l, hl, rfl⟩ := List.mem_map.mp ht
    obtain ⟨hmem, hblank⟩ := List.mem_filter.mp hl
    exact isPrefix_leadingBlanks hp (h l hmem (by simpa using hblank))
  obtain ⟨l, hl, hblank⟩ := hls
  have hindent : leadingBlanks l ∈ indents ls :=
    List.mem_map_of_mem (List.mem_filter.mpr ⟨hl, by simp [hblank]⟩)
  unfold margin
  unfold indents at hall hindent
  split
  · rename_i hnone
    rw [hnone] at hindent
    cases hindent
  · rename_i first more hindents
    rw [hindents] at hall
    exact isPrefix_foldl_commonLead hall

/-! ## Lines that lose their margin -/

/-- Lines and what is left of them right of some blanks that all of them begin with: blank lines
become empty, the others lose these blanks and no longer begin with the same blank. -/
structure LoseMargin (m : Text) (ls rests : List Text) : Prop where
  blanks : IsBlanks m
  /-- Line for line, what is left of the lines. -/
  parts : List.Forall₂ (fun l rest => if isBlankLine l then rest = [] else l = m ++ rest) ls rests
  /-- All blanks with which the lines begin are among those taken off. -/
  longest : (∃ l ∈ ls, isBlankLine l = false) → ∀ p, IsBlanks p →
    (∀ l ∈ ls, isBlankLine l = false → p <+: l) → p <+: m
  /-- There is no blank with which everything that is left begins. -/
  parted : (∃ l ∈ ls, isBlankLine l = false) → ∀ c, isBlank c = true →
    ∃ rest ∈ rests, isBlankLine rest = false ∧ rest.head? ≠ some c

/-- A blank line loses all it has, and another line the margin. -/
theorem dropMargin_margin {ls : List Text} {l : Text} (hl : l ∈ ls) :
    if isBlankLine l then dropMargin (margin ls) l = []
    else l = margin ls ++ dropMargin (margin ls) l := by
  split
  · rename_i hblank
    rw [dropMargin, if_pos hblank]
  · rename_i hblank
    have hfree : isBlankLine l = false := by simpa using hblank
    obtain ⟨rest, hrest⟩ := margin_isPrefix hl hfree
    rw [dropMargin_eq hfree hrest.symm, hrest]

/-- Some line does not begin with a given blank right of the margin. -/
theorem exists_parted {ls : List Text} (hls : ∃ l ∈ ls, isBlankLine l = false) {c : Char}
    (hc : isBlank c = true) :
    ∃ rest ∈ dedentLines ls, isBlankLine rest = false ∧ rest.head? ≠ some c := by
  by_contra hnot
  have hmargin := isBlanks_margin ls
  -- otherwise all lines begin with the margin and this blank behind it
  have hwide : ∀ l ∈ ls, isBlankLine l = false → margin ls ++ [c] <+: l := by
    intro l hl hblank
    obtain ⟨rest, hrest⟩ := margin_isPrefix hl hblank
    have hmem : rest ∈ dedentLines ls :=
      List.mem_map.mpr ⟨l, hl, dropMargin_eq hblank hrest.symm⟩
    have hfree : isBlankLine rest = false := by
      rw [← hrest, isBlankLine_blanks_append hmargin] at hblank
      exact hblank
    obtain ⟨more, rfl⟩ := List.head?_eq_some_iff.mp
      (Classical.not_not.mp fun hhead => hnot ⟨rest, hmem, hfree, hhead⟩)
    exact ⟨more, by rw [← hrest, List.append_assoc]; rfl⟩
  have hblanks : IsBlanks (margin ls ++ [c]) := fun d hd =>
    (List.mem_append.mp hd).elim (hmargin d) fun h => List.mem_singleton.mp h ▸ hc
  have hlength := (isPrefix_margin hblanks hwide hls).length_le
  rw [List.length_append, List.length_singleton] at hlength
  omega

/-- Lines lose their margin. -/
theorem loseMargin_dedentLines (ls : List Text) : LoseMargin (margin ls) ls (dedentLines ls) where
  blanks := isBlanks_margin ls
  parts := by
    rw [dedentLines, List.forall₂_map_right_iff, List.forall₂_same]
    exact fun l hl => dropMargin_margin hl
  longest := fun hls p hp h => isPrefix_margin hp h hls
  parted := fun hls c hc => exists_parted hls hc

/-! ## Indented texts -/

/-- Blanks that can stand in front of a line. -/
structure IsIndent (w : Text) : Prop where
  blanks : IsBlanks w
  /-- They do not end the line. -/
  single : '\n' ∉ w ∧ '\r' ∉ w

/-- The text with blanks in front of every line, also of the blank ones. -/
def indentLines (t w : Text) : Text := t.withLines ((lines t).map (w ++ ·))

/-- The lines of an indented text are the lines with the blanks in front of them. -/
theorem lines_indentLines {w : Text} (hw : w.IsIndent) (t : Text) :
    lines (t.indentLines w) = (lines t).map (w ++ ·) := by
  rw [indentLines]
  apply lines_withLines
  rw [List.forall₂_map_right_iff, List.forall₂_same]
  intro l hl
  refine ⟨?_, ?_, ?_⟩
  · rw [List.mem_append]
    exact not_or.mpr ⟨hw.single.1, feed_notMem_of_mem_lines hl⟩
  · intro hreturn
    rcases List.eq_nil_or_concat l with rfl | ⟨front, last, rfl⟩
    · rw [List.append_nil] at hreturn
      exact absurd (List.mem_of_getLast? hreturn) hw.single.2
    · rwa [List.getLast?_append_of_ne_nil w (by simp)] at hreturn
  · intro hne hnil
    exact hne (List.append_eq_nil_iff.mp hnil).2

/-- Taking the margin off a text takes the longest run of blanks from the beginning of its lines
that all lines but the blank ones have in common, and nothing else but the blank lines. Blanks
that are put in front of all lines are taken off again. -/
theorem dedent_takes_margin (t : Text) :
    (∃ m rests, LoseMargin m (lines t) rests ∧ dedent t = unlines rests) ∧
    ∀ w, IsIndent w → dedent (t.indentLines w) = dedent t := by
  refine ⟨⟨margin (lines t), dedentLines (lines t), loseMargin_dedentLines _, rfl⟩, fun w hw => ?_⟩
  calc dedent (t.indentLines w)
      = unlines (dedentLines (lines (t.indentLines w))) := rfl
    _ = unlines (dedentLines ((lines t).map (w ++ ·))) := by rw [lines_indentLines hw]
    _ = unlines (dedentLines (lines t)) := by rw [dedentLines_indented hw.blanks]

example : dedent "  a\n \n\t  b".toList = "  a\n\n\t  b".toList := by decide

end Text

end FeatureDoc
