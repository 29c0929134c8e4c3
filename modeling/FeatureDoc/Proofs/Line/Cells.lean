/-
# Rows that are written

A row of a table is read back cell by cell, whatever the cells hold: every `|` in a cell is behind
a backslash, and the space behind each cell keeps a backslash at its end away from the delimiter.

* `splitCells_writeRow` : the cells of a row are the ones that were written;
* `stripComment_writeRow` : a row of phrases has no comment;
* `splitCells_trim`, `splitCells_append` : what stands around the outer delimiters of a row does
  not matter to its cells;
* `cells_between_delimiters` : which cells any line has.
-/
import FeatureDoc.Line.Kind
import FeatureDoc.Proofs.Line.Delimiters
import FeatureDoc.Proofs.Text.Blank
import FeatureDoc.Proofs.Text.Phrase

namespace FeatureDoc.Line

/-- A text that can stand in a cell. -/
structure IsCell (cell : Text) : Prop where
  /-- It has no blanks around it. -/
  trimmed : Text.trim cell = cell
  /-- It stands on one line. -/
  single : '\n' ∉ cell ∧ '\r' ∉ cell

instance : DecidablePred IsCell := fun cell =>
  decidable_of_iff (Text.trim cell = cell ∧ '\n' ∉ cell ∧ '\r' ∉ cell)
    ⟨fun ⟨htrim, hsingle⟩ => ⟨htrim, hsingle⟩, fun h => ⟨h.trimmed, h.single⟩⟩

/-- A phrase can stand in a cell. -/
theorem IsCell.of_isPhrase {t : Text} (h : t.IsPhrase) : IsCell t :=
  ⟨h.trimmed, h.single⟩

/-- A cell with the delimiter behind it. -/
def writeCell (cell : Text) : Text := ' ' :: escapePipes cell ++ [' ', '|']

/-- A row is a delimiter and its cells, each with the delimiter behind it. -/
theorem writeRow_eq {cells : List Text} (hne : cells ≠ []) :
    writeRow cells = '|' :: cells.flatMap writeCell := by
  have hjoined : ∀ (cell : Text) (cells : List Text),
      ' ' :: Pieces.joined " | " ((cell :: cells).map escapePipes) ++ [' ', '|'] =
        (cell :: cells).flatMap writeCell := by
    intro cell cells
    induction cells generalizing cell with
    | nil => simp [Pieces.joined, List.intercalate, writeCell]
    | cons next cells ih =>
      rw [List.flatMap_cons, ← ih next]
      simp [Pieces.joined, List.intercalate, writeCell]
  cases cells with
  | nil => exact absurd rfl hne
  | cons cell cells =>
    rw [← hjoined]
    rfl

/-! ## Cells -/

/-- The first character of a cell, if it is a `|`, is written behind a backslash. -/
theorem escapePipes_cons (c : Char) (cell : Text) :
    escapePipes (c :: cell) = (if c = '|' then ['\\', '|'] else [c]) ++ escapePipes cell := by
  rw [escapePipes, List.flatMap_cons]
  rfl

/-- A written cell does not begin with a delimiter, also if nothing is written. -/
theorem head?_escapePipes (cell : Text) : (escapePipes cell ++ [' ']).head? ≠ some '|' := by
  cases cell with
  | nil => exact fun h => absurd (Option.some.inj h) (by decide)
  | cons c cell =>
    rw [escapePipes_cons]
    by_cases hc : c = '|'
    · rw [if_pos hc]
      exact fun h => absurd (Option.some.inj h) (by decide)
    · rw [if_neg hc]
      exact fun h => hc (Option.some.inj h)

/-- A written cell is read back, with the space behind it. -/
theorem unescapePipes_escapePipes (cell : Text) :
    unescapePipes (escapePipes cell ++ [' ']) = cell ++ [' '] := by
  induction cell with
  | nil => rfl
  | cons c cell ih =>
    rw [escapePipes_cons]
    by_cases hc : c = '|'
    · rw [if_pos hc, hc]
      show '|' :: unescapePipes (escapePipes cell ++ [' ']) = _
      rw [ih]
      rfl
    · rw [if_neg hc]
      show unescapePipes (c :: (escapePipes cell ++ [' '])) = _
      rw [unescapePipes_cons (head?_escapePipes cell), ih]
      rfl

/-- A delimiter behind a backslash belongs to the piece. -/
theorem splitRow_backslash {t piece : Text} {more : List Text}
    (h : splitRow false t = piece :: more) (escaped : Bool) :
    splitRow escaped ('\\' :: '|' :: t) = ('\\' :: '|' :: piece) :: more := by
  have hinner : splitRow true ('|' :: t) = ('|' :: piece) :: more := by
    rw [splitRow, if_neg (by decide), show decide ('|' = '\\') = false from rfl, h]
  have hother : ¬('\\' = '|') := by decide
  rw [splitRow, if_neg fun hboth => hother hboth.1, show decide ('\\' = '\\') = true from rfl,
    hinner]

/-- A cell ends at the delimiter behind it, whether a backslash stands before it or not. -/
theorem splitRow_escapePipes (cell rest : Text) (escaped : Bool) :
    splitRow escaped (escapePipes cell ++ ' ' :: '|' :: rest) =
      (escapePipes cell ++ [' ']) :: splitRow false rest := by
  -- a backslash at the end of the cell is before the space and not before the delimiter
  induction cell generalizing escaped with
  | nil => rfl
  | cons c cell ih =>
    rw [escapePipes_cons]
    by_cases hc : c = '|'
    · rw [if_pos hc]
      exact splitRow_backslash (ih false) escaped
    · rw [if_neg hc]
      show splitRow escaped (c :: (escapePipes cell ++ ' ' :: '|' :: rest)) = _
      rw [splitRow, if_neg fun hboth => hc hboth.1, ih]
      rfl

/-- The pieces of cells are the cells with the spaces around them, and nothing at the end. -/
theorem splitRow_flatMap_writeCell (cells : List Text) :
    splitRow false (cells.flatMap writeCell) =
      cells.map (fun cell => ' ' :: escapePipes cell ++ [' ']) ++ [[]] := by
  induction cells with
  | nil => rfl
  | cons cell cells ih =>
    have hwrite : (cell :: cells).flatMap writeCell =
        ' ' :: (escapePipes cell ++ ' ' :: '|' :: cells.flatMap writeCell) := by
      simp [writeCell]
    rw [hwrite, splitRow, if_neg (by decide), splitRow_escapePipes, ih]
    rfl

/-- The blanks around a piece do not belong to the cell. -/
theorem trim_space_append {t : Text} (h : Text.trim t = t) :
    Text.trim (' ' :: (t ++ [' '])) = t := by
  obtain ⟨hhead, hlast⟩ := Text.trim_eq_self_iff.mp h
  have hend : Text.trimEnd (t ++ [' ']) = t := by
    rw [Text.trimEnd, List.reverse_append]
    exact Text.trimEnd_eq_self_iff.mpr hlast
  cases t with
  | nil => rfl
  | cons c t =>
    have hstart : Text.trimStart (' ' :: (c :: t ++ [' '])) = c :: t ++ [' '] :=
      (Text.trimStart_eq_self_iff (t := c :: t ++ [' '])).mpr (by simpa using hhead)
    rw [Text.trim, hstart, hend]

/-- The cells of a row are the ones that were written. -/
theorem splitCells_writeRow {cells : List Text} (hne : cells ≠ [])
    (h : ∀ cell ∈ cells, Text.trim cell = cell) : splitCells (writeRow cells) = cells := by
  have hpieces : (splitRow false (writeRow cells)).tail.dropLast =
      cells.map fun cell => ' ' :: escapePipes cell ++ [' '] := by
    rw [writeRow_eq hne, splitRow, if_pos (by decide), List.tail_cons, splitRow_flatMap_writeCell,
      List.dropLast_concat]
  have hcell : ∀ cell ∈ cells,
      Text.trim (unescapePipes (' ' :: escapePipes cell ++ [' '])) = cell := by
    intro cell hcell
    rw [List.cons_append, unescapePipes_cons (head?_escapePipes cell), unescapePipes_escapePipes,
      trim_space_append (h cell hcell)]
  rw [splitCells, hpieces, List.map_map]
  exact (List.map_congr_left hcell).trans (List.map_id cells)

/-! ## A row as a line -/

/-- A row begins and ends with a delimiter. -/
theorem writeRow_eq_delimited (cells : List Text) : ∃ t, writeRow cells = '|' :: t ++ ['|'] :=
  ⟨' ' :: Pieces.joined " | " (cells.map escapePipes) ++ [' '], by simp [writeRow]⟩

/-- A row has no blanks around it. -/
theorem trim_writeRow (cells : List Text) : Text.trim (writeRow cells) = writeRow cells := by
  obtain ⟨t, heq⟩ := writeRow_eq_delimited cells
  rw [heq, Text.trim_eq_self_iff]
  constructor
  · rintro c ⟨rfl⟩
    rfl
  · intro c hc
    rw [List.getLast?_concat] at hc
    obtain rfl := Option.some.inj hc
    rfl

/-- What is left of a row without its comment begins with a delimiter, like the row. -/
theorem stripComment_writeRow_eq_cons (cells : List Text) :
    ∃ t, stripComment (writeRow cells) = '|' :: t := by
  obtain ⟨t, heq⟩ := writeRow_eq_delimited cells
  refine ⟨Text.trimEnd (beforeComment false (t ++ ['|'])), ?_⟩
  rw [heq, stripComment]
  exact Text.trimEnd_cons rfl _

/-- A line that begins with a delimiter declares nothing. -/
theorem classify_delimiter_cons (t : Text) :
    classify ('|' :: t) = ⟨none, [], Text.trim ('|' :: t)⟩ :=
  rfl

/-- Writing a cell adds no characters but delimiters, spaces and backslashes. -/
theorem notMem_writeCell {cell : Text} {c : Char} (hnew : c ∉ ['|', ' ', '\\'])
    (h : c ∉ cell) : c ∉ writeCell cell := by
  simp only [List.mem_cons, List.not_mem_nil, or_false, not_or] at hnew
  obtain ⟨hdelimiter, hspace, hbackslash⟩ := hnew
  have hescaped : c ∉ escapePipes cell := by
    intro hmem
    obtain ⟨d, hd, hc⟩ := List.mem_flatMap.mp (show c ∈ List.flatMap _ cell from hmem)
    split at hc
    · simp [hdelimiter, hbackslash] at hc
    · rw [List.mem_singleton.mp hc] at h
      exact h hd
  simp [writeCell, hescaped, hdelimiter, hspace]

/-- Writing a row adds no characters but delimiters, spaces and backslashes. -/
theorem notMem_writeRow {cells : List Text} {c : Char} (hne : cells ≠ [])
    (hnew : c ∉ ['|', ' ', '\\']) (h : ∀ cell ∈ cells, c ∉ cell) : c ∉ writeRow cells := by
  rw [writeRow_eq hne]
  intro hmem
  rcases List.mem_cons.mp hmem with hc | hmem
  · exact hnew (hc ▸ List.mem_cons_self)
  · obtain ⟨cell, hcell, hmem⟩ := List.mem_flatMap.mp hmem
    exact notMem_writeCell hnew (h cell hcell) hmem

/-- No part of a written phrase is a comment. -/
theorem beforeComment_escapePipes {before : Char} {t rest : Text}
    (h : ∀ p ∈ (before :: t).zip t, Text.isBlank p.1 = true → p.2 ≠ '#') :
    beforeComment (Text.isBlank before) (escapePipes t ++ ' ' :: '|' :: rest) =
      escapePipes t ++ ' ' :: '|' :: beforeComment false rest := by
  induction t generalizing before with
  | nil =>
    show beforeComment _ (' ' :: '|' :: rest) = ' ' :: '|' :: beforeComment false rest
    cases Text.isBlank before <;> rfl
  | cons c t ih =>
    rw [List.zip_cons_cons] at h
    have hrest := ih fun p hp => h p (List.mem_cons_of_mem _ hp)
    rw [escapePipes_cons]
    by_cases hc : c = '|'
    · subst hc
      -- neither the backslash nor the `|` is a blank
      have hescaped : ∀ opens u, beforeComment opens ('\\' :: '|' :: u) =
          '\\' :: '|' :: beforeComment false u := by
        intro opens u
        cases opens <;> rfl
      rw [if_pos rfl]
      show beforeComment _ ('\\' :: '|' :: (escapePipes t ++ ' ' :: '|' :: rest)) = _
      rw [hescaped, show false = Text.isBlank '|' from rfl, hrest]
      rfl
    · have hfirst : ¬(c = '#' ∧ Text.isBlank before = true) := fun hboth =>
        h (before, c) List.mem_cons_self hboth.2 hboth.1
      rw [if_neg hc]
      show beforeComment _ (c :: (escapePipes t ++ ' ' :: '|' :: rest)) = _
      rw [beforeComment, if_neg hfirst, hrest]
      rfl

/-- No part of written phrases is a comment. -/
theorem beforeComment_flatMap_writeCell {names : List Text}
    (h : ∀ name ∈ names, name.IsPhrase) :
    beforeComment false (names.flatMap writeCell) = names.flatMap writeCell := by
  induction names with
  | nil => rfl
  | cons name names ih =>
    have hwrite : (name :: names).flatMap writeCell =
        ' ' :: (escapePipes name ++ ' ' :: '|' :: names.flatMap writeCell) := by
      simp [writeCell]
    rw [hwrite, beforeComment, if_neg (by decide),
      beforeComment_escapePipes (h name List.mem_cons_self).uncommented,
      ih fun n hn => h n (List.mem_cons_of_mem _ hn)]

/-- A row of phrases has no comment. -/
theorem stripComment_writeRow {names : List Text} (hne : names ≠ [])
    (h : ∀ name ∈ names, name.IsPhrase) : stripComment (writeRow names) = writeRow names := by
  have hbefore : beforeComment true (writeRow names) = writeRow names := by
    rw [writeRow_eq hne, beforeComment, if_neg (by decide),
      show Text.isBlank '|' = false from rfl, beforeComment_flatMap_writeCell h]
  rw [stripComment, hbefore, trim_writeRow]

/-! ## What does not matter to the cells -/

/-- A text without delimiters that follows a row does not matter to its cells. -/
theorem splitCells_append {u : Text} (hu : '|' ∉ u) (t : Text) :
    splitCells (t ++ u) = splitCells t :=
  splitCells_surrounded (not_isDelimiter_of_notMem List.not_mem_nil) (by simp)
    (not_isDelimiter_of_notMem hu) t

/-- Blanks around a row do not matter to its cells. -/
theorem splitCells_trim (t : Text) : splitCells (Text.trim t) = splitCells t := by
  obtain ⟨before, after, hbefore, hafter, ht⟩ := Text.exists_eq_blanks_append t
  have hbar : ∀ {w : Text}, Text.IsBlanks w → '|' ∉ w := fun hw hmem =>
    absurd (hw _ hmem) (by decide)
  have hlast : before.getLast? ≠ some '\\' := fun h =>
    absurd (hbefore _ (List.mem_of_getLast? h)) (by decide)
  have hsame := splitCells_surrounded (not_isDelimiter_of_notMem (hbar hbefore)) hlast
    (not_isDelimiter_of_notMem (hbar hafter)) (Text.trim t)
  rw [List.append_assoc, ← ht] at hsame
  exact hsame.symm

/-! ## Cells and delimiters -/

/-- Each cell of a line stands between two neighbouring delimiters: it is the text between them,
with every `|` freed from the backslash before it and without the blanks around it. What stands
before and behind the delimiters does not matter. Trimmed texts, whatever they hold, are read back
from the row that is written for them. -/
theorem cells_between_delimiters :
    (∀ line, splitCells line = (neighbours (delimiters line)).map fun places =>
      Text.trim (unescapePipes (between line places))) ∧
    (∀ a b, unescapePipes (a ++ '\\' :: '|' :: b) = unescapePipes a ++ '|' :: unescapePipes b) ∧
    (∀ t, (∀ a b, t ≠ a ++ '\\' :: '|' :: b) → unescapePipes t = t) ∧
    (∀ before line after, (∀ i, ¬IsDelimiter before i) → before.getLast? ≠ some '\\' →
      (∀ i, ¬IsDelimiter after i) → splitCells (before ++ line ++ after) = splitCells line) ∧
    ∀ cells, cells ≠ [] → (∀ cell ∈ cells, Text.trim cell = cell) →
      splitCells (writeRow cells) = cells :=
  ⟨splitCells_eq, unescapePipes_append_pipe, fun _ => unescapePipes_eq_self,
    fun _ _ _ hbefore hlast hafter => splitCells_surrounded hbefore hlast hafter _,
    fun _ => splitCells_writeRow⟩

/-- Cells in which backslashes and delimiters stand in a row, with an empty cell between them. -/
example : let cells : List Text := ["\\", "|", [], "\\|", "\\\\|"]
    splitCells (writeRow cells) = cells := by decide

end FeatureDoc.Line
