/-
# Quoted contents

What is written below a step between two quote marks is its content, whatever it is: the lines
between the marks may be marks themselves, or look like steps, tags, comments or rows, and they
keep the blanks that they have behind those of the marks. Only blank lines come out empty.

* `Step.HasRun.lines_eq` : the run of a step is told by the first line that does not continue it;
* `Step.content_quotation` : the content of a step that has captured a quotation;
* `Feature.quotation_of_parse` : a quotation below a step of a document that can be read.
-/
import FeatureDoc.Argument.Resolution
import FeatureDoc.Proofs.Feature.Content
import FeatureDoc.Proofs.Reading.Capture

namespace FeatureDoc

/-! ## Lines and blank lines below them -/

namespace Text

/-- A line as a content shows it: a blank one is empty. -/
def cleared (l : Text) : Text := if isBlankLine l then [] else l

/-- Without a margin a line is only cleared. -/
theorem dropMargin_nil (l : Text) : dropMargin [] l = cleared l := by
  rw [dropMargin, cleared, after?_eq_some_iff.mpr (List.nil_append l).symm, Option.getD_some]

/-- A cleared line is part of a line. -/
theorem cleared_subset (l : Text) : cleared l ⊆ l := by
  unfold cleared
  split
  · exact List.nil_subset l
  · exact List.Subset.refl l

/-- What is left of a line without its carriage return is part of the line. -/
theorem chomp_subset (l : Text) : chomp l ⊆ l := by
  unfold chomp
  split
  · exact List.dropLast_subset l
  · exact List.Subset.refl l

/-- Lines of which the last one is not empty can be put together and taken apart again, and so can
blank lines below them, up to their number and their carriage returns. -/
theorem exists_lines_unlines_append {ls : List Text} {last : Text} {blanks : List Text}
    (hls : ∀ l ∈ ls ++ [last], '\n' ∉ l ∧ '\r' ∉ l) (hlast : last ≠ [])
    (hblanks : ∀ l ∈ blanks, '\n' ∉ l ∧ isBlankLine l = true) :
    ∃ blanks', (∀ l ∈ blanks', '\n' ∉ l ∧ isBlankLine l = true) ∧
      lines (unlines (ls ++ [last] ++ blanks)) = ls ++ [last] ++ blanks' := by
  have hkept : (ls ++ [last]).map chomp = ls ++ [last] :=
    (List.map_congr_left fun l hl =>
      chomp_eq_self fun hend => (hls l hl).2 (List.mem_of_getLast? hend)).trans (List.map_id _)
  obtain rfl | ⟨above, bottom, rfl⟩ := List.eq_nil_or_concat blanks
  · refine ⟨[], by simp, ?_⟩
    have hfeed : ∀ l ∈ ls, '\n' ∉ l := fun l hl => (hls l (List.mem_append_left _ hl)).1
    rw [List.map_append, List.map_singleton] at hkept
    rw [List.append_nil, lines_unlines_concat hfeed
      (hls last (List.mem_append_right _ List.mem_cons_self)).1, if_neg hlast,
      (List.append_inj' hkept rfl).1]
  · rw [List.concat_eq_append] at hblanks ⊢
    have habove : ∀ l ∈ above, '\n' ∉ l ∧ isBlankLine l = true := fun l hl =>
      hblanks l (List.mem_append_left _ hl)
    have hbottom := hblanks bottom (List.mem_append_right _ List.mem_cons_self)
    have hfeed : ∀ l ∈ ls ++ [last] ++ above, '\n' ∉ l := fun l hl =>
      (List.mem_append.mp hl).elim (fun hl => (hls l hl).1) fun hl => (habove l hl).1
    refine ⟨above.map chomp ++ if bottom = [] then [] else [bottom], fun l hl => ?_, ?_⟩
    · rcases List.mem_append.mp hl with hl | hl
      · obtain ⟨l', hl', rfl⟩ := List.mem_map.mp hl
        exact ⟨fun hmem => (habove l' hl').1 (chomp_subset l' hmem),
          (isBlankLine_chomp l').trans (habove l' hl').2⟩
      · split at hl
        · cases hl
        · rw [List.mem_singleton.mp hl]
          exact hbottom
    · rw [← List.append_assoc, lines_unlines_concat hfeed hbottom.1, List.map_append, hkept,
        List.append_assoc]

/-- Blank lines below the others are nothing right of the margin. -/
theorem dedentLines_append_of_isBlankLine (ls : List Text) {blanks : List Text}
    (h : ∀ l ∈ blanks, isBlankLine l = true) :
    dedentLines (ls ++ blanks) = dedentLines ls ++ blanks.map fun _ => [] := by
  have hmargin : margin (ls ++ blanks) = margin ls := by
    have hnone : blanks.filter (fun l => !isBlankLine l) = [] :=
      List.filter_eq_nil_iff.mpr fun l hl => by simp [h l hl]
    rw [margin, List.filter_append, hnone, List.append_nil, margin]
  rw [dedentLines, hmargin, List.map_append, dedentLines]
  exact congrArg _ (List.map_congr_left fun l hl => if_pos (h l hl))

end Text

/-! ## The content of a quotation -/

namespace Step

open Text

/-- The lines of a quotation: those that are quoted, between two quote marks, all behind the same
blanks. -/
def quotation (w : Text) (body : List Text) : List Text :=
  (quoteMark :: body ++ [quoteMark]).map (w ++ ·)

/-- Blank lines at the end are dropped. -/
theorem dropBlankEnd_append_of_isBlankLine (ls : List Text) {blanks : List Text}
    (h : ∀ l ∈ blanks, isBlankLine l = true) : dropBlankEnd (ls ++ blanks) = dropBlankEnd ls := by
  have hreverse : ∀ l ∈ blanks.reverse, isBlankLine l = true := fun l hl =>
    h l (List.mem_reverse.mp hl)
  rw [dropBlankEnd, List.reverse_append, List.dropWhile_append_of_pos hreverse, dropBlankEnd]

/-- A quotation is as deep as its first mark, which is not blank. -/
theorem dedentLines_quotation {w : Text} (hw : IsBlanks w) (body : List Text) :
    dedentLines (quotation w body) = quoteMark :: body.map cleared ++ [quoteMark] := by
  have hmargin : margin (quoteMark :: body ++ [quoteMark]) = [] := by
    have hprefix : margin (quoteMark :: body ++ [quoteMark]) <+: leadingBlanks quoteMark :=
      margin_isPrefix_leadingBlanks List.mem_cons_self rfl
    exact List.prefix_nil.mp hprefix
  have hdrop : dropMargin [] = cleared := funext dropMargin_nil
  rw [quotation, dedentLines_indented hw, dedentLines, hmargin, hdrop]
  simp only [List.cons_append, List.map_cons, List.map_append]
  rfl

/-- What a quotation shows are the lines between its marks. -/
theorem shown_quotation {body blanks : List Text} (hbody : ∀ l ∈ body, '\n' ∉ l ∧ '\r' ∉ l)
    (hblanks : ∀ l ∈ blanks, '\n' ∉ l ∧ isBlankLine l = true) :
    shown (quoteMark :: body ++ [quoteMark] ++ blanks) = unlines body := by
  have hls : ∀ l ∈ quoteMark :: body ++ [quoteMark], '\n' ∉ l ∧ '\r' ∉ l := by
    intro l hl
    rcases List.mem_append.mp hl with hl | hl
    · rcases List.mem_cons.mp hl with rfl | hl
      · decide
      · exact hbody l hl
    · rw [List.mem_singleton.mp hl]
      decide
  obtain ⟨blanks', hblanks', hlines⟩ := exists_lines_unlines_append hls (by decide) hblanks
  rw [shown, hlines, dropBlankEnd_append_of_isBlankLine _ fun l hl => (hblanks' l hl).2,
    dropBlankEnd_concat _ rfl, List.cons_append, unquote_cons_concat, if_pos ⟨rfl, rfl⟩]

/-- A step that has captured a quotation, and perhaps blank lines below it, has the lines between
the marks as its content. -/
theorem content_quotation {s : Step} {w : Text} (hw : IsIndent w) {body blanks : List Text}
    (hbody : ∀ l ∈ body, '\n' ∉ l ∧ '\r' ∉ l)
    (hblanks : ∀ l ∈ blanks, '\n' ∉ l ∧ isBlankLine l = true)
    (h : s.lines = quotation w body ++ blanks) :
    s.content = some (unlines (body.map cleared)) := by
  have hquotation : quotation w body = (quoteMark :: body).map (w ++ ·) ++ [w ++ quoteMark] := by
    rw [quotation, List.map_append, List.map_singleton]
  have hls : ∀ l ∈ (quoteMark :: body).map (w ++ ·) ++ [w ++ quoteMark],
      '\n' ∉ l ∧ '\r' ∉ l := by
    rw [← hquotation]
    intro l hl
    obtain ⟨l', hl', rfl⟩ := List.mem_map.mp hl
    have hsingle : '\n' ∉ l' ∧ '\r' ∉ l' := by
      rcases List.mem_append.mp hl' with hl' | hl'
      · rcases List.mem_cons.mp hl' with rfl | hl'
        · decide
        · exact hbody l' hl'
      · rw [List.mem_singleton.mp hl']
        decide
    simp only [List.mem_append, not_or]
    exact ⟨⟨hw.single.1, hsingle.1⟩, hw.single.2, hsingle.2⟩
  have hlast : w ++ quoteMark ≠ [] := by simp [quoteMark]
  obtain ⟨blanks', hblanks', hlines⟩ := exists_lines_unlines_append hls hlast hblanks
  have hne : s.lines ≠ [] := by simp [h, hquotation]
  have hcleared : ∀ l ∈ body.map cleared, '\n' ∉ l ∧ '\r' ∉ l := by
    intro l hl
    obtain ⟨l', hl', rfl⟩ := List.mem_map.mp hl
    exact ⟨fun hmem => (hbody l' hl').1 (cleared_subset l' hmem),
      fun hmem => (hbody l' hl').2 (cleared_subset l' hmem)⟩
  rw [content_eq_shown hne, h, hquotation, hlines, ← hquotation,
    dedentLines_append_of_isBlankLine _ fun l hl => (hblanks' l hl).2,
    dedentLines_quotation hw.blanks, shown_quotation hcleared]
  intro l hl
  obtain ⟨_, -, rfl⟩ := List.mem_map.mp hl
  exact ⟨List.not_mem_nil, rfl⟩

/-! ## The run of a quotation -/

/-- The run of a step is told by the first line that does not continue it. -/
theorem HasRun.lines_eq {s : Step} {ls run rest : List Text} (h : s.HasRun ls)
    (hbelow : ls.drop s.line = run ++ rest) (hrun : Continued s.indent run)
    (hend : ∀ next ∈ rest.head?, ¬Continued s.indent (run ++ [next])) : s.lines = run := by
  obtain ⟨more, hmore⟩ := h.longest run ⟨rest, hbelow.symm⟩ hrun
  have hrest : more <+: rest := by
    have hlines := h.below
    rwa [← hmore, hbelow, List.prefix_append_right_inj] at hlines
  cases more with
  | nil => rw [← hmore, List.append_nil]
  | cons next more =>
    obtain ⟨after, rfl⟩ := hrest
    have hcontinued := h.continued
    rw [← hmore, List.append_cons] at hcontinued
    exact absurd hcontinued.of_append (hend next rfl)

/-- A quotation that is deeper than a step continues it, with the blank lines below. -/
theorem continued_quotation {indent : Nat} {w : Text} (hw : IsBlanks w) (hdeep : indent < w.length)
    (body : List Text) {blanks : List Text} (hblanks : ∀ l ∈ blanks, isBlankLine l = true) :
    Continued indent (quotation w body ++ blanks) := by
  have hdeeper : ∀ l : Text, indent < indentWidth (w ++ l) := by
    intro l
    rw [indentWidth_blanks_append hw]
    omega
  refine ⟨hdeeper quoteMark, fun raw hraw => ?_⟩
  rcases List.mem_append.mp hraw with hraw | hraw
  · obtain ⟨l, -, rfl⟩ := List.mem_map.mp hraw
    exact Or.inl (hdeeper l)
  · exact Or.inr (hblanks raw hraw)

end Step

/-! ## Whole documents -/

/-- A quotation below a step of a document that can be read, down to a line that is not deeper than
the step, is its content, and is bound under its name. -/
theorem Feature.quotation_of_parse {t : Text} {f : Feature} (h : parse t = .ok f) {s : Step}
    (hs : s ∈ f.allSteps) {above : List Text} {raw w : Text} {body blanks rest : List Text}
    (hline : s.line = above.length + 1)
    (hlines : Text.lines t = above ++ raw :: (Step.quotation w body ++ blanks ++ rest))
    (hw : Text.IsIndent w) (hdeep : Text.indentWidth raw < w.length)
    (hbody : ∀ l ∈ body, '\n' ∉ l ∧ '\r' ∉ l)
    (hblanks : ∀ l ∈ blanks, Text.isBlankLine l = true)
    (hrest : ∀ next ∈ rest.head?, Text.isBlankLine next = false ∧
      Text.indentWidth next ≤ Text.indentWidth raw) :
    s.content = some (Text.unlines (body.map Text.cleared)) ∧
      s.bindings [] = .ok [("docstring", .text (Text.unlines (body.map Text.cleared)))] := by
  obtain ⟨d, closed, hread, hend, rfl⟩ := Draft.exists_of_parse_eq_ok h
  rw [Draft.allSteps_finish hend] at hs
  have hrun := ((Draft.tracks_of_feedAll hread).reads s hs).hasRun
  have hbelow : (Text.lines t).drop s.line = Step.quotation w body ++ blanks ++ rest := by
    rw [hlines, hline]
    simp
  have hindent : s.indent = Text.indentWidth raw := by
    obtain ⟨-, raw', hraw', hindent⟩ := hrun.declared
    rw [hlines, hline, Nat.add_sub_cancel, List.getElem?_append_right (Nat.le_refl _),
      Nat.sub_self] at hraw'
    rw [hindent, ← Option.some.inj hraw']
  have hkept : s.lines = Step.quotation w body ++ blanks := by
    refine hrun.lines_eq hbelow ?_ fun next hnext hcontinued => ?_
    · exact Step.continued_quotation hw.blanks (hindent ▸ hdeep) body hblanks
    · obtain ⟨hfull, hshallow⟩ := hrest next hnext
      rcases (Step.continued_concat.mp hcontinued).2 with hdeeper | ⟨hblank, -⟩
      · omega
      · exact Bool.noConfusion (hfull.symm.trans hblank)
  have hcontent : s.content = some (Text.unlines (body.map Text.cleared)) := by
    refine Step.content_quotation hw hbody (fun l hl => ⟨?_, hblanks l hl⟩) hkept
    refine Text.feed_notMem_of_mem_lines (t := t) ?_
    rw [hlines]
    simp [hl]
  refine ⟨hcontent, ?_⟩
  rw [Step.bindings, hcontent]
  rfl

/-- A quotation of a mark, a blank line, a comment with blanks in front, and a tag, with blank lines
below. -/
theorem Feature.quotation_of_parse_of_marks :
    let t := Text.unlines ["Scenario: S", "  Given x", "   \"\"\"", "   \"\"\"", "    ",
      "     # a | b", "   @t", "   \"\"\"", [], "  ", "Then y"]
    let content : Text := "\"\"\"\n\n  # a | b\n@t"
    ∃ f, parse t = .ok f ∧ ∃ s ∈ f.allSteps, s.line = 2 ∧ s.content = some content ∧
      s.bindings [] = .ok [("docstring", .text content)] := by
  intro t content
  have hread : parse t = .ok _ := rfl
  refine ⟨_, hread, _, List.mem_cons_self, rfl, ?_⟩
  exact @quotation_of_parse t _ hread _ List.mem_cons_self ["Scenario: S"] "  Given x" "   "
    ["\"\"\"", " ", "  # a | b", "@t"] [[], "  "] ["Then y"] rfl rfl (by constructor <;> decide)
    (by decide) (by decide) (by decide) (by rintro _ ⟨⟩; decide)

end FeatureDoc
