/-
# The content of steps that are indented

The content of a step is what its captured lines hold right of their margin. Blanks in front of
all of them do not change it, with one exception: a captured line that is empty is dropped with
the line feed before it when the lines are put together and taken apart again, and one that holds
blanks is not. Then a carriage return at the end of the content counts as part of a line's end.

* `Step.name_indented` : the name of an indented step is the same;
* `Step.content_indented` : so is its content, but for a carriage return at its end.
-/
import FeatureDoc.Feature.Step
import FeatureDoc.Proofs.Text.Dedent

namespace FeatureDoc

namespace Text

/-! ## Captured lines put together -/

/-- The end of an indented line is that of the line. -/
theorem chomp_indented {w : Text} (hw : IsIndent w) (l : Text) : chomp (w ++ l) = w ++ chomp l := by
  by_cases hl : l = []
  · have hlast : w.getLast? ≠ some '\r' := fun h => hw.single.2 (List.mem_of_getLast? h)
    rw [hl, List.append_nil, chomp_eq_self hlast]
    exact (List.append_nil w).symm
  · have hlast : (w ++ l).getLast? = l.getLast? := List.getLast?_append_of_ne_nil w hl
    unfold chomp
    rw [hlast]
    split
    · rw [List.dropLast_append_of_ne_nil hl]
    · rfl

/-- Indented lines that are put together are the lines indented; an empty line at the end, which
is lost otherwise, stays if there are blanks in front of it. -/
theorem lines_unlines_indented {w : Text} (hw : IsIndent w) {ls : List Text} {last : Text}
    (hls : ∀ l ∈ ls, '\n' ∉ l) (hlast : '\n' ∉ last) :
    lines (unlines ((ls ++ [last]).map (w ++ ·))) =
      (lines (unlines (ls ++ [last]))).map (w ++ ·) ++ if last = [] ∧ w ≠ [] then [w] else [] := by
  have hfeed : ∀ {l : Text}, '\n' ∉ l → '\n' ∉ w ++ l := fun hl hmem =>
    (List.mem_append.mp hmem).elim hw.single.1 hl
  have hmap : ∀ l ∈ ls.map (w ++ ·), '\n' ∉ l := by
    intro l hl
    obtain ⟨l', hl', rfl⟩ := List.mem_map.mp hl
    exact hfeed (hls l' hl')
  have hchomp : (ls.map (w ++ ·)).map chomp = (ls.map chomp).map (w ++ ·) := by
    rw [List.map_map, List.map_map]
    exact List.map_congr_left fun l _ => chomp_indented hw l
  rw [List.map_append, List.map_singleton, lines_unlines_concat hmap (hfeed hlast),
    lines_unlines_concat hls hlast, hchomp, List.map_append, List.append_assoc]
  congr 1
  by_cases hnil : last = []
  · by_cases hempty : w = [] <;> simp [hnil, hempty]
  · simp [hnil]

/-- A text behind the last line is behind all lines. -/
theorem unlines_concat_append (ls : List Text) (a b : Text) :
    unlines (ls ++ [a ++ b]) = unlines (ls ++ [a]) ++ b := by
  induction ls with
  | nil => simp [unlines, List.intercalate]
  | cons l ls ih =>
    have hcons : ∀ c : Text, unlines (l :: ls ++ [c]) = l ++ '\n' :: unlines (ls ++ [c]) := by
      intro c
      cases ls <;> simp [unlines, List.intercalate]
    rw [hcons, hcons, ih]
    simp

/-- A line is blank exactly if it is without its carriage return. -/
theorem isBlankLine_chomp (l : Text) : isBlankLine (chomp l) = isBlankLine l := by
  rcases eq_chomp_or_eq_concat l with h | h
  · rw [← h]
  · conv => rhs; rw [h]
    have hreturn : isBlank '\r' = true := rfl
    simp [isBlankLine, hreturn]

end Text

namespace Step

open Text

/-! ## Blank lines and quote marks at the end -/

/-- A blank line at the end is dropped. -/
theorem dropBlankEnd_concat_of_isBlankLine (ls : List Text) {l : Text}
    (hl : isBlankLine l = true) : dropBlankEnd (ls ++ [l]) = dropBlankEnd ls := by
  rw [dropBlankEnd, List.reverse_append, List.reverse_singleton, List.singleton_append,
    List.dropWhile_cons_of_pos hl, dropBlankEnd]

/-- Another line at the end stays, with all lines before it. -/
theorem dropBlankEnd_concat (ls : List Text) {l : Text} (hl : isBlankLine l = false) :
    dropBlankEnd (ls ++ [l]) = ls ++ [l] := by
  have hneg : ¬isBlankLine l = true := by simp [hl]
  rw [dropBlankEnd, List.reverse_append, List.reverse_singleton, List.singleton_append,
    List.dropWhile_cons_of_neg hneg, List.reverse_cons, List.reverse_reverse]

/-- A carriage return behind a quote mark does not matter. -/
theorem isQuoteMark_chomp (l : Text) : isQuoteMark (chomp l) = isQuoteMark l := by
  rcases eq_chomp_or_eq_concat l with h | h
  · rw [← h]
  · have hreturn : IsBlanks ['\r'] := by decide
    conv => rhs; rw [h, isQuoteMark, trimEnd_append_blanks hreturn]
    rfl

/-- Quote marks are taken off if the first line and the last one are such. -/
theorem unquote_cons_concat (first : Text) (rest : List Text) (last : Text) :
    unquote (first :: (rest ++ [last])) =
      if isQuoteMark first ∧ isQuoteMark last then rest else first :: (rest ++ [last]) := by
  rw [unquote, List.getLast?_concat]
  simp only [List.dropLast_concat]

/-- A carriage return at the end of the last line is taken off with the quote marks, or it is at
the end of the content. -/
theorem unquote_chomp (ls : List Text) (last : Text) :
    unlines (unquote (ls ++ [last])) = unlines (unquote (ls ++ [chomp last])) ∨
      unlines (unquote (ls ++ [last])) = unlines (unquote (ls ++ [chomp last])) ++ ['\r'] := by
  -- what is not taken off ends in the last line
  have hplain : unlines (ls ++ [last]) = unlines (ls ++ [chomp last]) ∨
      unlines (ls ++ [last]) = unlines (ls ++ [chomp last]) ++ ['\r'] := by
    rcases eq_chomp_or_eq_concat last with h | h
    · left
      rw [← h]
    · right
      rw [← unlines_concat_append, ← h]
  cases ls with
  | nil => exact hplain
  | cons first rest =>
    rw [List.cons_append, List.cons_append, unquote_cons_concat, unquote_cons_concat,
      isQuoteMark_chomp]
    split
    · exact Or.inl rfl
    · exact hplain

/-! ## The content -/

/-- What lines without their margin hold: no blank lines at the end and no quote marks. -/
def shown (ls : List Text) : Text :=
  unlines (unquote (dropBlankEnd (Text.lines (unlines ls))))

/-- The content is what the captured lines hold right of their margin. -/
theorem content_eq_shown {s : Step} (h : s.lines ≠ []) :
    s.content = some (shown (dedentLines (Text.lines (unlines s.lines)))) := by
  rw [content, if_neg h]
  rfl

/-- One more empty line at the end changes nothing, but for a carriage return at the end, which
counts as part of the line's end then. -/
theorem shown_concat_nil {ls : List Text} (hfeed : ∀ l ∈ ls, '\n' ∉ l)
    (hblank : ∀ l ∈ ls, isBlankLine l = true → l = []) :
    shown ls = shown (ls ++ [[]]) ∨ shown ls = shown (ls ++ [[]]) ++ ['\r'] := by
  obtain rfl | ⟨front, last, rfl⟩ := List.eq_nil_or_concat ls
  · exact Or.inl rfl
  rw [List.concat_eq_append] at hfeed hblank ⊢
  have hfront : ∀ l ∈ front, '\n' ∉ l := fun l hl => hfeed l (List.mem_append_left _ hl)
  have hmem : last ∈ front ++ [last] := List.mem_append_right _ List.mem_cons_self
  unfold shown
  rw [lines_unlines_concat hfront (hfeed last hmem), lines_unlines_concat hfeed List.not_mem_nil,
    if_pos rfl, List.append_nil, List.map_append, List.map_singleton]
  by_cases hlast : isBlankLine last = true
  · left
    rw [if_pos (hblank last hmem hlast), List.append_nil, dropBlankEnd_concat_of_isBlankLine]
    rwa [isBlankLine_chomp]
  · have hfull : isBlankLine last = false := by simpa using hlast
    have hne : last ≠ [] := by
      rintro rfl
      cases hfull
    rw [if_neg hne, dropBlankEnd_concat _ hfull,
      dropBlankEnd_concat _ ((isBlankLine_chomp last).trans hfull)]
    exact unquote_chomp _ last

/-- The step as it stands in a document with more blanks in front of every line. -/
def indented (w : Text) (s : Step) : Step :=
  { s with indent := s.indent + w.length, lines := s.lines.map (w ++ ·) }

/-- An indented step has the same content, unless the last line that it captured is empty and its
content ends in a carriage return, which may be dropped then. -/
theorem content_indented {w : Text} (hw : IsIndent w) {s : Step} (h : ∀ l ∈ s.lines, '\n' ∉ l) :
    (s.indented w).content = s.content ∨ (w ≠ [] ∧ s.lines.getLast? = some [] ∧
      ∃ c, s.content = some (c ++ ['\r']) ∧ (s.indented w).content = some c) := by
  obtain hnil | ⟨front, last, hlines⟩ := List.eq_nil_or_concat s.lines
  · left
    rw [content, content, indented, hnil]
    rfl
  rw [List.concat_eq_append] at hlines
  have hne : s.lines ≠ [] := by simp [hlines]
  have hne' : (s.indented w).lines ≠ [] := by simp [indented, hlines]
  rw [hlines] at h
  have hfront : ∀ l ∈ front, '\n' ∉ l := fun l hl => h l (List.mem_append_left _ hl)
  have hlast : '\n' ∉ last := h last (List.mem_append_right _ List.mem_cons_self)
  -- the captured lines, put together and taken apart again
  have hread : Text.lines (unlines (s.indented w).lines) =
      (Text.lines (unlines s.lines)).map (w ++ ·) ++ if last = [] ∧ w ≠ [] then [w] else [] := by
    rw [indented, hlines]
    exact lines_unlines_indented hw hfront hlast
  rw [content_eq_shown hne, content_eq_shown hne', hread]
  split
  · rename_i hempty
    have hblank : isBlankLine w = true := List.all_eq_true.mpr hw.blanks
    rw [dedentLines_concat_of_isBlankLine _ hblank, dedentLines_indented hw.blanks]
    have hfeed : ∀ l ∈ dedentLines (Text.lines (unlines s.lines)), '\n' ∉ l := by
      intro l hl
      exact feed_notMem_of_mem_dedentLines (fun l => feed_notMem_of_mem_lines) hl
    rcases shown_concat_nil hfeed fun l hl => eq_nil_of_mem_dedentLines hl with heq | heq
    · left
      rw [heq]
    · right
      refine ⟨hempty.2, by simp [hlines, hempty.1], _, congrArg some heq, rfl⟩
  · left
    rw [List.append_nil, dedentLines_indented hw.blanks]

/-- An indented step has the same name. -/
theorem name_indented {w : Text} (hw : IsIndent w) {s : Step} (h : ∀ l ∈ s.lines, '\n' ∉ l) :
    (s.indented w).name = s.name := by
  rcases content_indented hw h with hsame | ⟨-, -, c, hc, hc'⟩
  · rw [name, hsame, name]
    rfl
  · have hreturn : IsBlanks ['\r'] := by decide
    have hend : trim (s.canonical ++ '\n' :: (c ++ ['\r'])) = trim (s.canonical ++ '\n' :: c) := by
      rw [← List.cons_append, ← List.append_assoc, trim_append_blanks hreturn]
    rw [name, hc', name, hc]
    exact hend.symm

end Step

end FeatureDoc
