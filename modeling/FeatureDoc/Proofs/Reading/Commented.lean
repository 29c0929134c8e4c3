/-
# Documents with further comments

A comment behind a line says nothing, also where the line has comments, delimiters or backslashes
already. This needs a look at the lines that are not only read by what is left of them without
their comments: the indent of a step is that of the whole line, and so are the cells of a row.

* `Draft.feed_withComment` : one line with a comment behind it;
* `parse_commented` : a document with comments behind any of its lines that are not captured.
-/
import FeatureDoc.Proofs.Reading.Taken
import FeatureDoc.Proofs.Line.Cells
import FeatureDoc.Proofs.Line.Comment
import FeatureDoc.Proofs.Text.Lines

namespace FeatureDoc

namespace Line

/-- What a comment behind a line may say. -/
structure IsComment (comment : Text) : Prop where
  /-- No delimiter: it would make what is before it a cell. -/
  plain : '|' ∉ comment
  /-- It stays on the line. -/
  single : '\n' ∉ comment ∧ '\r' ∉ comment

/-- The line with a comment behind it, if there is one to be written. -/
def withComment (comment : Option Text) (raw : Text) : Text :=
  match comment with
  | none => raw
  | some comment => raw ++ writeComment comment

/-- A comment behind a row does not matter to its cells. -/
theorem splitCells_trim_append_comment (t : Text) {comment : Text} (h : IsComment comment) :
    splitCells (Text.trim (t ++ writeComment comment)) = splitCells (Text.trim t) := by
  have hplain : '|' ∉ writeComment comment := by
    simpa [writeComment] using h.plain
  rw [splitCells_trim, splitCells_append hplain, splitCells_trim]

end Line

namespace Draft

variable {d d' : Draft} {line : Nat} {raw raw' clean : Text} {c : Line.Classified}

/-! ## One line -/

/-- Only the cells of a row are read. -/
theorem addRow_of_splitCells {text text' : Text}
    (hcells : Line.splitCells text' = Line.splitCells text) (h : d.addRow line text = .ok d') :
    d.addRow line text' = .ok d' := by
  unfold addRow at h ⊢
  simp only at h ⊢
  rw [hcells]
  split at h
  · exact h
  · split at h
    · exact absurd h (fail_ne_ok _ _ _ _)
    · rename_i hlength
      rw [if_neg hlength]
      exact h

/-- Only the name and the cells of a column are read. -/
theorem addColumn_of_splitCells {text text' : Text}
    (hcells : Line.splitCells text' = Line.splitCells text) (h : d.addColumn line text = .ok d') :
    d.addColumn line text' = .ok d' := by
  unfold addColumn at h ⊢
  rw [hcells]
  split at h
  · exact absurd h (fail_ne_ok _ _ _ _)
  · exact h

/-- Of the line itself only the indent and the cells are read. -/
theorem declare_of_agrees (hindent : Text.indentWidth raw' = Text.indentWidth raw)
    (hcells : Line.splitCells (Text.trim raw') = Line.splitCells (Text.trim raw))
    (h : d.declare line raw clean c = .ok d') : d.declare line raw' clean c = .ok d' := by
  have hstep : ∀ type,
      d.declareStep line raw' clean type c = d.declareStep line raw clean type c := by
    intro type
    rw [declareStep, addStep, hindent, declareStep, addStep]
  have hplain : d.takePlainLine line raw clean c = .ok d' →
      d.takePlainLine line raw' clean c = .ok d' := by
    unfold takePlainLine
    cases d.mode with
    | none => exact id
    | some mode =>
      cases mode with
      | row => exact addRow_of_splitCells hcells
      | column => exact addColumn_of_splitCells hcells
      | step type => exact (hstep type).trans
      | _ => exact id
  unfold declare at h ⊢
  simp only [hstep]
  cases hkind : c.kind with
  | none =>
    rw [hkind] at h
    exact hplain h
  | some kind =>
    rw [hkind] at h
    cases kind <;> exact h

/-- A comment behind a line that is not captured changes nothing. -/
theorem feed_withComment {comment : Option Text} (hfree : d.captures raw = false)
    (hclean : Line.stripComment raw ≠ []) (hcomment : ∀ text ∈ comment, Line.IsComment text)
    (h : d.feed line raw = .ok d') : d.feed line (Line.withComment comment raw) = .ok d' := by
  cases comment with
  | none => exact h
  | some comment =>
    have hfull := Line.isBlankLine_of_stripComment_ne_nil hclean
    have hindent : Text.indentWidth (raw ++ Line.writeComment comment) = Text.indentWidth raw :=
      Text.indentWidth_append hfull _
    have hcells := Line.splitCells_trim_append_comment raw (hcomment comment rfl)
    have hcaptures : d.captures (raw ++ Line.writeComment comment) = d.captures raw := by
      -- neither line is blank, so that only the indent counts
      have hfull' : Text.isBlankLine (raw ++ Line.writeComment comment) = false := by
        rw [Text.isBlankLine, List.all_append]
        exact Bool.and_eq_false_imp.mpr fun hblank => absurd (hfull.symm.trans hblank) (by decide)
      rw [captures, captures, hindent, hfull, hfull']
    unfold feed at h ⊢
    rw [Line.withComment, hcaptures, Line.stripComment_append_comment]
    rw [if_neg (by simp [hfree])] at h ⊢
    simp only at h ⊢
    rw [if_neg fun hboth => hclean hboth.1] at h ⊢
    obtain ⟨e, hdeclare, hlast⟩ := exists_of_bind_eq_ok h
    rw [declare_of_agrees hindent hcells hdeclare]
    exact hlast

/-! ## All lines -/

/-- Which lines are captured by a step, from the given number on, up to the first fault. -/
def captured (d : Draft) (line : Nat) : List Text → List Bool
  | [] => []
  | raw :: rest => d.captures raw ::
    match d.feed line raw with
    | .ok e => e.captured (line + 1) rest
    | .error _ => []

/-- A choice of comments for lines, by their places: only lines get one that are not captured and
of which something is left without their comments. -/
def Commentable (d : Draft) (line : Nat) (ls : List Text) (choice : Nat → Option Text) : Prop :=
  ∀ i raw comment, ls[i]? = some raw → choice i = some comment →
    (d.captured line ls)[i]? = some false ∧ Line.stripComment raw ≠ [] ∧ Line.IsComment comment

/-- Comments behind lines that are not captured change nothing. -/
theorem feedAll_commented {ls : List Text} {choice : Nat → Option Text}
    (hchoice : d.Commentable line ls choice) (h : d.feedAll line ls = .ok d') :
    d.feedAll line (ls.mapIdx fun i raw => Line.withComment (choice i) raw) = .ok d' := by
  induction ls generalizing d line choice with
  | nil => exact h
  | cons raw rest ih =>
    obtain ⟨e, hfirst, hrest⟩ := exists_of_bind_eq_ok h
    have hfeed : d.feed line (Line.withComment (choice 0) raw) = .ok e := by
      cases hcomment : choice 0 with
      | none => exact hfirst
      | some comment =>
        obtain ⟨hfree, hclean, htext⟩ := hchoice 0 raw comment rfl hcomment
        refine feed_withComment (Option.some.inj hfree) hclean ?_ hfirst
        rintro _ ⟨⟩
        exact htext
    have hothers : e.Commentable (line + 1) rest fun i => choice (i + 1) := by
      intro i other comment hother hcomment
      have hall := hchoice (i + 1) other comment hother hcomment
      rw [captured, hfirst] at hall
      exact hall
    rw [List.mapIdx_cons, feedAll, hfeed]
    exact ih hothers hrest

end Draft

/-! ## Whole documents -/

namespace Text

/-- Which lines of a document are captured by a step, as far as it can be read. -/
def captured (t : Text) : List Bool := (Draft.start [] []).captured 1 (lines t)

/-- A choice of comments for the lines of a document, by their places: only lines get one that are
not captured by a step and of which something is left without their comments. -/
def Commentable (t : Text) (choice : Nat → Option Text) : Prop :=
  (Draft.start [] []).Commentable 1 (lines t) choice

/-- The document with the comments behind its lines. -/
def commented (t : Text) (choice : Nat → Option Text) : Text :=
  t.withLines ((lines t).mapIdx fun i raw => Line.withComment (choice i) raw)

/-- A line with a comment behind it can stand in the place of the line. -/
theorem replaces_withComment {raw : Text} (hraw : '\n' ∉ raw) {comment : Option Text}
    (h : ∀ text ∈ comment, Line.IsComment text) : Replaces raw (Line.withComment comment raw) := by
  cases comment with
  | none => exact ⟨hraw, id, id⟩
  | some comment =>
    obtain ⟨hfeed, hreturn⟩ := (h comment rfl).single
    refine ⟨by simp [Line.withComment, Line.writeComment, hraw, hfeed], ?_, by
      simp [Line.withComment, Line.writeComment]⟩
    intro hlast
    have hne : Line.writeComment comment ≠ [] := List.cons_ne_nil _ _
    rw [Line.withComment, List.getLast?_append_of_ne_nil raw hne] at hlast
    have hmem : '\r' ∈ Line.writeComment comment := List.mem_of_getLast? hlast
    exact absurd hmem (by simpa [Line.writeComment] using hreturn)

/-- The lines of a document with comments are its lines with the comments behind them. -/
theorem lines_commented {t : Text} {choice : Nat → Option Text} (h : t.Commentable choice) :
    lines (t.commented choice) = (lines t).mapIdx fun i raw => Line.withComment (choice i) raw := by
  refine lines_withLines (List.forall₂_iff_get.mpr ⟨List.length_mapIdx.symm, fun i hi hi' => ?_⟩)
  simp only [List.get_eq_getElem, List.getElem_mapIdx]
  refine replaces_withComment (feed_notMem_of_mem_lines (List.getElem_mem hi)) ?_
  intro comment hcomment
  exact (h i _ comment (List.getElem?_eq_getElem hi) hcomment).2.2

end Text

/-- A document with comments behind lines that are not captured describes the same feature. -/
theorem parse_commented {t : Text} {f : Feature} {choice : Nat → Option Text}
    (h : parse t = .ok f) (hchoice : t.Commentable choice) :
    parse (t.commented choice) = .ok f := by
  obtain ⟨d, e, hlines, hend, rfl⟩ := Draft.exists_of_parse_eq_ok h
  have hcommented := Draft.feedAll_commented hchoice hlines
  rw [← Text.lines_commented hchoice] at hcommented
  exact Draft.parse_eq_ok hcommented hend

/-- A document with comments behind a header and behind a row that holds a `#` already. -/
theorem parse_commented_of_table :
    let t : Text := "Scenario: S\nGiven x # old\n  more\nExamples:\n| a | b\\|c |\n| 1 | # |\n"
    let choice : Nat → Option Text := fun i => if i = 4 ∨ i = 5 then some ['"', '#', '\\'] else none
    t.Commentable choice ∧ ∃ f, parse t = .ok f ∧ parse (t.commented choice) = .ok f := by
  intro t choice
  have hchoice : t.Commentable choice := by
    intro i raw comment hraw hcomment
    by_cases hi : i = 4 ∨ i = 5
    · obtain rfl : ['"', '#', '\\'] = comment :=
        Option.some.inj ((if_pos hi).symm.trans hcomment)
      refine ⟨?_, ?_, by decide, by decide⟩
      · rcases hi with rfl | rfl <;> rfl
      · rcases hi with rfl | rfl <;> obtain rfl := Option.some.inj hraw <;> decide
    · exact absurd ((if_neg hi).symm.trans hcomment) (by simp)
  exact ⟨hchoice, _, rfl, parse_commented rfl hchoice⟩

end FeatureDoc
