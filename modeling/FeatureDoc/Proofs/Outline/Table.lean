/-
# Tables are read as they were written

A table of examples below the last scenario of an outline is read back as one block of that
scenario, with the names and the rows that were written. A table is written row by row or, in a
vertical block, column by column.

* `Table.transpose_columns` : the rows of a table are got back from its columns;
* `Draft.Tabulates.rowLines`, `Draft.Tabulates.columnLines` : the lines fill the block;
* `Outline.parse_writeTable` : the whole document.
-/
import FeatureDoc.Proofs.Line.Cells
import FeatureDoc.Proofs.Feature.Rectangle
import FeatureDoc.Proofs.Outline.RoundTrip

namespace FeatureDoc

/-- A table of examples. -/
structure Table where
  /-- The names of the columns. -/
  names : List Text
  rows : List (List Text)

namespace Table

/-! ## Tables that can be written -/

/-- A table that can be written. -/
structure WellFormed (t : Table) : Prop where
  names_ne_nil : t.names ≠ []
  phrases : ∀ name ∈ t.names, name.IsPhrase
  distinct : t.names.Nodup
  rows_ne_nil : t.rows ≠ []
  /-- All rows are as wide as the table. -/
  width : ∀ row ∈ t.rows, row.length = t.names.length
  cells : ∀ row ∈ t.rows, ∀ cell ∈ row, Line.IsCell cell

instance : DecidablePred WellFormed := fun t =>
  decidable_of_iff (t.names ≠ [] ∧ (∀ name ∈ t.names, name.IsPhrase) ∧ t.names.Nodup ∧
      t.rows ≠ [] ∧ (∀ row ∈ t.rows, row.length = t.names.length) ∧
      ∀ row ∈ t.rows, ∀ cell ∈ row, Line.IsCell cell)
    ⟨fun ⟨hnames, hphrases, hdistinct, hrows, hwidth, hcells⟩ =>
      ⟨hnames, hphrases, hdistinct, hrows, hwidth, hcells⟩,
      fun h => ⟨h.names_ne_nil, h.phrases, h.distinct, h.rows_ne_nil, h.width, h.cells⟩⟩

/-- The cells of a column. -/
def column (t : Table) (j : Nat) : List Text := t.rows.map fun row => row[j]?.getD []

/-- The columns of a table. -/
def columns (t : Table) : List (List Text) := (List.range t.names.length).map t.column

/-- The line above a table. -/
def openingLine : Orientation → Text
  | .horizontal => "Examples:"
  | .vertical => "Examples: Vertical"

/-- The lines of a table: row by row below the names, or column by column. -/
def tableLines (t : Table) : Orientation → List Text
  | .horizontal => Line.writeRow t.names :: t.rows.map Line.writeRow
  | .vertical => (t.names.zip t.columns).map fun column => Line.writeRow (column.1 :: column.2)

/-- A table with the line above it. -/
def lines (t : Table) (orientation : Orientation) : List Text :=
  openingLine orientation :: t.tableLines orientation

variable {t : Table}

/-- Every column is as long as there are rows. -/
theorem length_of_mem_columns {cells : List Text} (h : cells ∈ t.columns) :
    cells.length = t.rows.length := by
  obtain ⟨j, -, rfl⟩ := List.mem_map.mp h
  simp [column]

/-- The cells of a column are cells of the table. -/
theorem isCell_of_mem_columns (h : t.WellFormed) {cells : List Text} (hcells : cells ∈ t.columns)
    {cell : Text} (hcell : cell ∈ cells) : Line.IsCell cell := by
  obtain ⟨j, -, rfl⟩ := List.mem_map.mp hcells
  obtain ⟨row, hrow, rfl⟩ := List.mem_map.mp hcell
  cases hget : row[j]? with
  | none => exact ⟨rfl, List.not_mem_nil, List.not_mem_nil⟩
  | some cell => exact h.cells row hrow cell (List.mem_of_getElem? hget)

/-- There are as many columns as names. -/
theorem length_columns (t : Table) : t.columns.length = t.names.length := by
  rw [columns, List.length_map, List.length_range]

/-- The rows of a table are got back from its columns. -/
theorem transpose_columns (h : t.WellFormed) : ExampleBlock.transpose t.columns = t.rows := by
  -- the cells at one place of all columns are a row
  have hrow : ∀ (i : Nat) (hi : i < t.rows.length),
      t.columns.filterMap (fun cells => cells[i]?) = t.rows[i] := by
    intro i hi
    have hcell : ∀ j, (t.column j)[i]? = some (t.rows[i][j]?.getD []) := by
      intro j
      simp [column, hi]
    rw [columns, List.filterMap_map]
    simp only [Function.comp_def, hcell, List.filterMap_eq_map']
    rw [← h.width t.rows[i] (List.getElem_mem hi),
      ExampleBlock.map_range_getD]
  cases hcolumns : t.columns with
  | nil =>
    have hlength := t.length_columns
    rw [hcolumns] at hlength
    exact absurd (List.length_eq_zero_iff.mp hlength.symm) h.names_ne_nil
  | cons first rest =>
    have hfirst : first.length = t.rows.length :=
      length_of_mem_columns (hcolumns ▸ List.mem_cons_self)
    rw [ExampleBlock.transpose, ← hcolumns, hfirst]
    apply List.ext_getElem
    · simp
    · intro i hi hi'
      simpa using hrow i hi'

end Table

/-! ## Between two lines of a table -/

/-- A draft between two lines of a table: the feature so far, the open scenario, what the next
line means, and the block so far. -/
structure Draft.Tabulates (d : Draft) (f : Feature) (o : Text) (m : Draft.Mode)
    (b : ExampleBlock) : Prop where
  feature : d.feature = f
  scenario : d.scenario = some o
  mode : d.mode = some m
  prose : d.prose = []
  openStep : d.openStep = none
  scenarioBlock : d.scenarioBlock = some b
  featureBlock : d.featureBlock = none

namespace Draft

variable {d : Draft} {f : Feature} {o : Text} {m : Mode} {b : ExampleBlock}
  (line : Nat)

/-- A block is opened in the open scenario if none is being read. -/
theorem declareExamples_of_none {orientation : Orientation} (hscenario : d.scenario = some o)
    (hnone : d.scenarioBlock = none) : d.declareExamples line orientation =
      .ok { d with scenarioBlock := some (.opened orientation line)
                   mode := some (fillMode orientation) } := by
  have hclosed : d.closeScenarioBlock = .ok d := by rw [closeScenarioBlock, hnone]
  unfold declareExamples
  split
  · rw [hclosed]
    rfl
  · rename_i hclosed'
    cases hscenario.symm.trans hclosed'

/-- While a scenario is open, its block is changed. -/
theorem updateBlock_of_scenario (hscenario : d.scenario = some o)
    (change : ExampleBlock → ExampleBlock) :
    d.updateBlock change = { d with scenarioBlock := d.scenarioBlock.map change } := by
  unfold updateBlock
  split
  · rfl
  · rename_i hclosed
    cases hscenario.symm.trans hclosed

/-- The line above a table opens a block of the open scenario. -/
theorem Stands.openingLine {mode : Option Mode} {tags : List Text}
    (h : d.Stands f (some o) mode tags) (orientation : Orientation) : ∃ d',
    d.feed line (Table.openingLine orientation) = .ok d' ∧
      d'.Tabulates f o (fillMode orientation) (.opened orientation line) := by
  have hwhole : (Table.openingLine orientation).IsWhole := by
    cases orientation <;> exact ⟨by decide, by decide, by decide, by decide⟩
  obtain ⟨e, he, hopen, hfeed⟩ := h.feed_eq line hwhole
  -- the two lines pass through different modes on their way to the one in which blocks are filled
  have hdeclare : ∃ m, e.declare line (Table.openingLine orientation)
      (Table.openingLine orientation) (Line.classify (Table.openingLine orientation)) =
        (e.enter m).declareExamples line orientation := by
    cases orientation with
    | horizontal => exact ⟨.examples, rfl⟩
    | vertical => exact ⟨.verticalExamples, rfl⟩
  obtain ⟨m, hdeclare⟩ := hdeclare
  rw [hfeed, hdeclare, declareExamples_of_none (d := e.enter m) line he.scenario he.scenarioBlock]
  exact ⟨_, rfl, { he with mode := rfl, openStep := hopen, scenarioBlock := rfl }⟩

/-- A block is not ragged if all its columns have the same number of cells. -/
theorem raggedColumn?_eq_none {n : Nat} (h : ∀ cells ∈ b.values, cells.length = n) :
    raggedColumn? b = none := by
  unfold raggedColumn?
  split
  · rename_i first expected columns _ hzip
    have hlength : ∀ column ∈ (first, expected) :: columns, column.2.length = n := by
      intro column hcolumn
      rw [← hzip] at hcolumn
      exact h column.2 (List.of_mem_zip hcolumn).2
    rw [Option.map_eq_none_iff, List.find?_eq_none]
    intro column hcolumn
    have hsame := hlength column (List.mem_cons_of_mem _ hcolumn)
    have hfirst := hlength (first, expected) List.mem_cons_self
    simp only [hsame, ← hfirst]
    simp
  · rfl

namespace Tabulates

/-- A row of a table declares nothing and is taken up by what it means. -/
theorem feed_eq (h : d.Tabulates f o m b) (cells : List Text) : ∃ e : Draft,
    e.Tabulates f o m b ∧ d.feed line (Line.writeRow cells) =
      (e.takePlainLine line (Line.writeRow cells) (Line.stripComment (Line.writeRow cells))
        ⟨none, [], Text.trim (Line.stripComment (Line.writeRow cells))⟩).map
        fun d => { d with lastLine := some (Line.stripComment (Line.writeRow cells)) } := by
  obtain ⟨t, hclean⟩ := Line.stripComment_writeRow_eq_cons cells
  have hfree : d.captures (Line.writeRow cells) = false := by rw [captures, h.openStep]
  refine ⟨d.beforeTaking line (Line.writeRow cells), { h with openStep := rfl }, ?_⟩
  rw [feed, if_neg (by simp [hfree])]
  simp only [beforeTaking, hclean, Line.classify_delimiter_cons]
  rw [if_neg fun hboth => List.cons_ne_nil _ _ hboth.1, declare]
  cases takePlainLine _ line (Line.writeRow cells) ('|' :: t)
    ⟨none, [], Text.trim ('|' :: t)⟩ <;> rfl

/-- The block is the one that lines are added to. -/
theorem openBlock? (h : d.Tabulates f o m b) : d.openBlock? = some b := by
  unfold Draft.openBlock?
  split
  · exact h.scenarioBlock
  · rename_i hclosed
    cases h.scenario.symm.trans hclosed

/-- A change of the block keeps the rest. -/
theorem updateBlock (h : d.Tabulates f o m b) (change : ExampleBlock → ExampleBlock) :
    (d.updateBlock change).Tabulates f o m (change b) := by
  rw [updateBlock_of_scenario h.scenario]
  exact { h with scenarioBlock := congrArg (Option.map change) h.scenarioBlock }

/-- The header names the columns of a horizontal block. -/
theorem headerLine (h : d.Tabulates f o .header b) {names : List Text} (hne : names ≠ [])
    (hphrases : ∀ name ∈ names, name.IsPhrase) : ∃ d',
    d.feed line (Line.writeRow names) = .ok d' ∧ d'.Tabulates f o .row { b with names } := by
  obtain ⟨e, he, hfeed⟩ := h.feed_eq line names
  have hcells : (Line.splitCells (Line.writeRow names)).filter (· ≠ []) = names := by
    rw [Line.splitCells_writeRow hne fun name hn => (hphrases name hn).trimmed,
      List.filter_eq_self]
    intro name hn
    simpa using (hphrases name hn).ne_nil
  rw [hfeed, takePlainLine, he.mode]
  simp only [Line.stripComment_writeRow hne hphrases, Line.trim_writeRow]
  rw [addHeader, hcells]
  have hentered : (e.enter .header).Tabulates f o .header b := { he with mode := rfl }
  exact ⟨_, rfl, { hentered.updateBlock fun b => { b with names } with mode := rfl }⟩

/-- A row adds its cells to a horizontal block. -/
theorem rowLine (h : d.Tabulates f o .row b) {cells : List Text} (hne : cells ≠ [])
    (hcells : ∀ cell ∈ cells, Line.IsCell cell) (hwidth : cells.length = b.names.length) : ∃ d',
    d.feed line (Line.writeRow cells) = .ok d' ∧
      d'.Tabulates f o .row { b with values := b.values ++ [cells] } := by
  obtain ⟨e, he, hfeed⟩ := h.feed_eq line cells
  have hentered : (e.enter .row).Tabulates f o .row b := { he with mode := rfl }
  rw [hfeed, takePlainLine, he.mode]
  simp only [Line.trim_writeRow, addRow, hentered.openBlock?,
    Line.splitCells_writeRow hne fun cell hcell => (hcells cell hcell).trimmed]
  rw [if_neg (not_not_intro hwidth)]
  exact ⟨_, rfl, { hentered.updateBlock _ with }⟩

/-- A column adds its name and its cells to a vertical block. -/
theorem columnLine (h : d.Tabulates f o .column b) {name : Text} {cells : List Text}
    (hcells : ∀ cell ∈ name :: cells, Line.IsCell cell) (hnew : name ∉ b.names) : ∃ d',
    d.feed line (Line.writeRow (name :: cells)) = .ok d' ∧
      d'.Tabulates f o .column
        { b with names := b.names ++ [name], values := b.values ++ [cells] } := by
  obtain ⟨e, he, hfeed⟩ := h.feed_eq line (name :: cells)
  have hentered : (e.enter .column).Tabulates f o .column b := { he with mode := rfl }
  rw [hfeed, takePlainLine, he.mode]
  simp only [Line.trim_writeRow, addColumn, hentered.openBlock?,
    Line.splitCells_writeRow (List.cons_ne_nil name cells) fun cell hcell =>
      (hcells cell hcell).trimmed]
  rw [if_neg hnew]
  exact ⟨_, rfl, { hentered.updateBlock _ with }⟩

/-- Rows add their cells to a horizontal block. -/
theorem rowLines (h : d.Tabulates f o .row b) {rows : List (List Text)} (hne : b.names ≠ [])
    (hcells : ∀ row ∈ rows, ∀ cell ∈ row, Line.IsCell cell)
    (hwidth : ∀ row ∈ rows, row.length = b.names.length) : ∃ d',
    d.feedAll line (rows.map Line.writeRow) = .ok d' ∧
      d'.Tabulates f o .row { b with values := b.values ++ rows } := by
  induction rows generalizing d line b with
  | nil =>
    rw [List.append_nil]
    exact ⟨d, rfl, h⟩
  | cons row rest ih =>
    have hrow := hwidth row List.mem_cons_self
    have hrow_ne : row ≠ [] := by
      rintro rfl
      exact hne (List.length_eq_zero_iff.mp hrow.symm)
    obtain ⟨e, hfeed, he⟩ := h.rowLine line hrow_ne (hcells row List.mem_cons_self) hrow
    obtain ⟨d', hfeeds, hd'⟩ := ih (line + 1) he hne
      (fun r hr => hcells r (List.mem_cons_of_mem _ hr))
      fun r hr => hwidth r (List.mem_cons_of_mem _ hr)
    refine ⟨d', ?_, ?_⟩
    · rw [List.map_cons, feedAll, hfeed]
      exact hfeeds
    · rwa [List.append_assoc, List.singleton_append] at hd'

/-- Columns add their names and their cells to a vertical block. -/
theorem columnLines (h : d.Tabulates f o .column b) {names : List Text}
    {columns : List (List Text)} (hlength : columns.length = names.length)
    (hnames : ∀ name ∈ names, Line.IsCell name)
    (hcells : ∀ cells ∈ columns, ∀ cell ∈ cells, Line.IsCell cell)
    (hdistinct : (b.names ++ names).Nodup) : ∃ d',
    d.feedAll line ((names.zip columns).map fun column => Line.writeRow (column.1 :: column.2)) =
        .ok d' ∧
      d'.Tabulates f o .column
        { b with names := b.names ++ names, values := b.values ++ columns } := by
  induction names generalizing d line b columns with
  | nil =>
    obtain rfl := List.length_eq_zero_iff.mp hlength
    rw [List.append_nil, List.append_nil]
    exact ⟨d, rfl, h⟩
  | cons name names ih =>
    cases columns with
    | nil => cases hlength
    | cons cells columns =>
      have hnew : name ∉ b.names := fun hmem =>
        (List.nodup_append.mp hdistinct).2.2 name hmem name List.mem_cons_self rfl
      have hline : ∀ cell ∈ name :: cells, Line.IsCell cell := by
        intro cell hcell
        rcases List.mem_cons.mp hcell with rfl | hcell
        · exact hnames cell List.mem_cons_self
        · exact hcells cells List.mem_cons_self cell hcell
      obtain ⟨e, hfeed, he⟩ := h.columnLine line hline hnew
      obtain ⟨d', hfeeds, hd'⟩ := ih (line + 1) he (Nat.succ.inj hlength)
        (fun n hn => hnames n (List.mem_cons_of_mem _ hn))
        (fun c hc => hcells c (List.mem_cons_of_mem _ hc)) (by simpa using hdistinct)
      refine ⟨d', ?_, ?_⟩
      · rw [List.zip_cons_cons, List.map_cons, feedAll, hfeed]
        exact hfeeds
      · rwa [List.append_assoc, List.singleton_append, List.append_assoc,
          List.singleton_append] at hd'

/-- The lines of a table fill a block with its names and its rows. -/
theorem tableLines {t : Table} (ht : t.WellFormed) {orientation : Orientation} {opened : Nat}
    (h : d.Tabulates f o (fillMode orientation) (.opened orientation opened)) : ∃ d' m' b,
    d.feedAll line (t.tableLines orientation) = .ok d' ∧ d'.Tabulates f o m' b ∧
      b.names = t.names ∧ b.rows = t.rows ∧ b.isEmpty = false ∧ raggedColumn? b = none := by
  cases orientation with
  | horizontal =>
    obtain ⟨d₁, hheader, h₁⟩ := h.headerLine line ht.names_ne_nil ht.phrases
    obtain ⟨d₂, hrows, h₂⟩ := h₁.rowLines (line + 1) ht.names_ne_nil ht.cells ht.width
    refine ⟨d₂, _, _, ?_, h₂, rfl, rfl, ?_, rfl⟩
    · show d.feedAll line (_ :: _) = _
      rw [feedAll, hheader]
      exact hrows
    · simpa [ExampleBlock.isEmpty, ExampleBlock.opened] using ht.rows_ne_nil
  | vertical =>
    -- the rows are got back from the columns, which all have one cell for each row
    obtain ⟨d₁, hcolumns, h₁⟩ := h.columnLines line t.length_columns
      (fun name hn => .of_isPhrase (ht.phrases name hn))
      (fun cells hc cell => Table.isCell_of_mem_columns ht hc) ht.distinct
    refine ⟨d₁, _, _, hcolumns, h₁, rfl, Table.transpose_columns ht, ?_, ?_⟩
    · have hne : t.columns ≠ [] := fun hnil => ht.names_ne_nil
        (List.length_eq_zero_iff.mp (t.length_columns.symm.trans (congrArg List.length hnil)))
      simpa [ExampleBlock.isEmpty, ExampleBlock.opened] using hne
    · exact raggedColumn?_eq_none fun cells hc => Table.length_of_mem_columns hc

/-- A block that is closed goes to the scenario that is open, which is the last one. -/
theorem closeBlocks (h : d.Tabulates f o m b) {earlier : List Scenario} {last : Scenario}
    (hscenarios : f.scenarios = earlier ++ [last]) (hname : last.name = o)
    (hnew : last.name ∉ earlier.map Scenario.name) (hcells : b.isEmpty = false)
    (heven : raggedColumn? b = none) : ∃ e, d.closeBlocks = .ok e ∧ e.prose = [] ∧
      e.feature = { f with
        scenarios := earlier ++ [{ last with examples := last.examples ++ [b] }] } := by
  -- the block is taken away, checked, and added to the open scenario
  let e : Draft := { d with scenarioBlock := none }
  have hlast : e.feature.scenarios = earlier ++ [last] := by rw [← hscenarios, ← h.feature]
  have hscenario : e.scenario = some last.name := by rw [hname, ← h.scenario]
  have hopen : e.openScenario? = some last := by
    rw [openScenario?, hscenario]
    exact Feature.scenario?_of_eq_concat hlast hnew
  have hchecked : e.checkBlock b = .ok (some b) := by
    rw [checkBlock, hcells, heven]
    rfl
  have hfirst : d.closeScenarioBlock = .ok (e.addScenarioBlock b) := by
    simp only [closeScenarioBlock, h.scenarioBlock]
    rw [hchecked]
    rfl
  obtain ⟨journal, hadded⟩ : ∃ journal, e.addScenarioBlock b =
      { e.updateOpenScenario (fun s => { s with examples := s.examples ++ [b] }) with
        journal } := by
    rw [addScenarioBlock, hopen]
    exact ⟨_, rfl⟩
  have hsecond : (e.addScenarioBlock b).closeFeatureBlock = .ok (e.addScenarioBlock b) := by
    have hnone : (e.addScenarioBlock b).featureBlock = none := by
      rw [hadded]
      exact h.featureBlock
    rw [closeFeatureBlock, hnone]
  refine ⟨e.addScenarioBlock b, ?_, ?_, ?_⟩
  · rw [Draft.closeBlocks, hfirst]
    exact hsecond
  · rw [hadded]
    exact h.prose
  · have hupdate := Feature.updateScenario_of_eq_concat hlast hnew
      fun s => { s with examples := s.examples ++ [b] }
    rw [hadded]
    simp only [updateOpenScenario, hscenario]
    exact hupdate.trans (by rw [← h.feature])

/-- After the last line of a document without descriptions the block belongs to the scenario that
is open. -/
theorem finish (h : d.Tabulates f o m b) (hdescription : f.description = [])
    {earlier : List Scenario} {last : Scenario} (hscenarios : f.scenarios = earlier ++ [last])
    (hname : last.name = o) (hnew : last.name ∉ earlier.map Scenario.name)
    (hcells : b.isEmpty = false) (heven : raggedColumn? b = none) : ∃ d', d.finish = .ok d' ∧
      d'.feature = { f with
        scenarios := earlier ++ [{ last with examples := last.examples ++ [b] }] } := by
  have hreleased : ({ d with openStep := none } : Draft).Tabulates f o m b :=
    { h with openStep := rfl }
  obtain ⟨e, hclosed, hprose, hfeature⟩ :=
    hreleased.closeBlocks hscenarios hname hnew hcells heven
  rw [Draft.finish, hclosed]
  refine ⟨_, rfl, ?_⟩
  show { e.feature with description := Text.trim (Text.unlines e.prose) } = _
  rw [hprose, hfeature, show Text.trim (Text.unlines []) = [] from rfl, ← hdescription]

end Tabulates

end Draft

namespace Outline

/-! ## Whole documents -/

/-- A document with a table below its last scenario, as a text. -/
def writeTable (o : Outline) (t : Table) (orientation : Orientation) : Text :=
  Text.writeLines (o.lines ++ t.lines orientation)

/-- The scenarios are read with the names that were written, and without blocks. -/
theorem map_name_readScenarios (line : Nat) (ss : List WrittenScenario) :
    (readScenarios line ss).map Scenario.name = ss.map WrittenScenario.name := by
  induction ss generalizing line with
  | nil => rfl
  | cons s rest ih =>
    rw [readScenarios, List.map_cons, ih, List.map_cons]
    rfl

/-- Scenarios without tables are read without blocks. -/
theorem examples_of_mem_readScenarios {line : Nat} {ss : List WrittenScenario} {s : Scenario}
    (h : s ∈ readScenarios line ss) : s.examples = [] := by
  induction ss generalizing line with
  | nil => cases h
  | cons written rest ih =>
    rcases List.mem_cons.mp h with rfl | h
    · rfl
    · exact ih h

/-- If there are scenarios, the last one is read as the last one, under a name of its own. -/
theorem exists_last_scenario {o : Outline} (ho : o.WellFormed) (hne : o.scenarios ≠ []) :
    ∃ earlier last, o.feature.scenarios = earlier ++ [last] ∧ last.examples = [] ∧
      o.scenarios.getLast?.map WrittenScenario.name = some last.name ∧
      last.name ∉ earlier.map Scenario.name := by
  have hnames : o.feature.scenarios.map Scenario.name =
      o.scenarios.map WrittenScenario.name := map_name_readScenarios _ o.scenarios
  obtain hnil | ⟨earlier, last, hconcat⟩ := List.eq_nil_or_concat o.feature.scenarios
  · rw [hnil] at hnames
    exact absurd (List.map_eq_nil_iff.mp hnames.symm) hne
  · rw [List.concat_eq_append] at hconcat
    refine ⟨earlier, last, hconcat, ?_, ?_, ?_⟩
    · exact examples_of_mem_readScenarios (show last ∈ o.feature.scenarios by simp [hconcat])
    · rw [← List.getLast?_map, ← hnames, hconcat]
      simp
    · have hdistinct := ho.distinct
      rw [← hnames, hconcat, List.map_append] at hdistinct
      exact fun hmem => (List.nodup_append.mp hdistinct).2.2 _ hmem _ List.mem_cons_self rfl

/-- Every line of a table stands on one line. -/
theorem single_of_mem_tableLines {t : Table} (ht : t.WellFormed) {orientation : Orientation}
    {l : Text} (h : l ∈ t.lines orientation) : '\n' ∉ l ∧ '\r' ∉ l := by
  have hrow : ∀ cells : List Text, cells ≠ [] → (∀ cell ∈ cells, Line.IsCell cell) →
      '\n' ∉ Line.writeRow cells ∧ '\r' ∉ Line.writeRow cells := fun cells hne hcells =>
    ⟨Line.notMem_writeRow hne (by decide) fun cell hc => (hcells cell hc).single.1,
      Line.notMem_writeRow hne (by decide) fun cell hc => (hcells cell hc).single.2⟩
  have hnames : ∀ name ∈ t.names, Line.IsCell name := fun name hn =>
    .of_isPhrase (ht.phrases name hn)
  rcases List.mem_cons.mp h with rfl | h
  · cases orientation <;> decide
  · cases orientation with
    | horizontal =>
      rcases List.mem_cons.mp h with rfl | h
      · exact hrow t.names ht.names_ne_nil hnames
      · obtain ⟨row, hmem, rfl⟩ := List.mem_map.mp h
        refine hrow row ?_ (ht.cells row hmem)
        rintro rfl
        exact ht.names_ne_nil (List.length_eq_zero_iff.mp (ht.width [] hmem).symm)
    | vertical =>
      obtain ⟨⟨name, cells⟩, hmem, rfl⟩ := List.mem_map.mp h
      refine hrow (name :: cells) (List.cons_ne_nil _ _) fun cell hcell => ?_
      obtain ⟨hname, hcells⟩ := List.of_mem_zip hmem
      rcases List.mem_cons.mp hcell with rfl | hcell
      · exact hnames cell hname
      · exact Table.isCell_of_mem_columns ht hcells hcell

/-- The table below the last scenario of a document is read as the one block of that scenario. -/
theorem parse_writeTable (o : Outline) (ho : o.WellFormed) (hne : o.scenarios ≠ []) (t : Table)
    (ht : t.WellFormed) (orientation : Orientation) : ∃ earlier last b,
    o.feature.scenarios = earlier ++ [last] ∧ b.names = t.names ∧ b.rows = t.rows ∧
      parse (o.writeTable t orientation) =
        .ok { o.feature with scenarios := earlier ++ [{ last with examples := [b] }] } := by
  obtain ⟨earlier, last, hscenarios, hexamples, hlast, hnew⟩ := exists_last_scenario ho hne
  obtain ⟨d₁, m₁, hlines, h₁⟩ := Draft.lines o ho
  rw [hlast] at h₁
  obtain ⟨d₂, hopened, h₂⟩ := h₁.openingLine (1 + o.lines.length) orientation
  obtain ⟨d₃, m₃, b, htable, h₃, hnames, hrows, hcells, heven⟩ :=
    h₂.tableLines (1 + o.lines.length + 1) ht
  have hdescription : o.feature.description = [] := by
    unfold feature readHeading
    cases o.heading <;> rfl
  obtain ⟨d₄, hfinish, hfeature⟩ := h₃.finish hdescription hscenarios rfl hnew hcells heven
  have hread : Text.lines (o.writeTable t orientation) = o.lines ++ t.lines orientation := by
    apply Text.lines_writeLines
    intro l hl
    rcases List.mem_append.mp hl with hl | hl
    · exact (isWhole_of_mem_lines ho hl).single
    · exact single_of_mem_tableLines ht hl
  have hfeed : (Draft.start [] []).feedAll 1 (Text.lines (o.writeTable t orientation)) =
      .ok d₃ := by
    rw [hread, Draft.feedAll_append, hlines]
    show d₁.feedAll _ (_ :: _) = _
    rw [Draft.feedAll, hopened]
    exact htable
  refine ⟨earlier, last, b, hscenarios, hnames, hrows, ?_⟩
  rw [parse_eq_ok hfeed hfinish, hfeature, hexamples]
  rfl

/-- A document with one scenario. -/
def counting : Outline where
  heading := none
  background := none
  scenarios := [{ name := "Counting", tags := [], steps := [
    { type := .context, opening := .own, text := "<n> items" }] }]

/-- A table with an empty cell, and with cells that hold delimiters, backslashes and `#`. -/
def oddities : Table where
  names := ["n", "a|b"]
  rows := [["#", ""], ["x\\", "\\|"], ["| y #", "z \\\\"]]

/-- Writing the table and reading it, in either orientation. -/
theorem parse_writeTable_oddities : counting.WellFormed ∧ oddities.WellFormed ∧
    ∀ orientation, ∃ earlier last b,
      counting.feature.scenarios = earlier ++ [last] ∧ b.names = oddities.names ∧
      b.rows = oddities.rows ∧ parse (counting.writeTable oddities orientation) =
        .ok { counting.feature with scenarios := earlier ++ [{ last with examples := [b] }] } := by
  have hcounting : counting.WellFormed :=
    ⟨by rintro h ⟨⟩, by rintro h ⟨⟩, by rintro h ⟨⟩, by rintro h ⟨⟩, by decide, by decide⟩
  have hoddities : oddities.WellFormed := by decide
  exact ⟨hcounting, hoddities,
    parse_writeTable counting hcounting (List.cons_ne_nil _ _) oddities hoddities⟩

end Outline

end FeatureDoc
