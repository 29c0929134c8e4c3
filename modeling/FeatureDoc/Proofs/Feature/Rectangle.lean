/-
# Rectangular example blocks

A block is rectangular if every row has a cell in every column. Then its rows are the same table
of cells in either orientation, although they are made across the lines of a vertical block.

* `ExampleBlock.rowCount`, `ExampleBlock.cell?` : the rows of a block and the cell that is written
  in a row and a column;
* `ExampleBlock.Rectangular.getElem?_row` : a row holds the cells that are written in it, and
  `ExampleBlock.Rectangular.length_row` : no others;
* `ExampleBlock.rectangular_of_raggedColumn?` : a block that is filled line by line is rectangular
  unless its columns are ragged.
-/
import FeatureDoc.Proofs.Reading.Parts

namespace FeatureDoc

namespace ExampleBlock

/-! ## The cells of a block -/

/-- The number of rows: that of lines, or of the cells in the first column. -/
def rowCount (b : ExampleBlock) : Nat :=
  match b.orientation with
  | .horizontal => b.values.length
  | .vertical =>
    match b.values with
    | [] => 0
    | first :: _ => first.length

/-- The cell that is written in a row and a column. -/
def cell? (b : ExampleBlock) (row column : Nat) : Option Text :=
  match b.orientation with
  | .horizontal => b.values[row]?.bind (·[column]?)
  | .vertical => b.values[column]?.bind (·[row]?)

/-- Every row has a cell in every column, and no others. -/
structure Rectangular (b : ExampleBlock) : Prop where
  /-- The lines of a horizontal block are rows. -/
  rows : b.orientation = .horizontal → ∀ row ∈ b.values, row.length = b.names.length
  /-- The lines of a vertical block are columns. -/
  columns : b.orientation = .vertical →
    b.values.length = b.names.length ∧ ∀ column ∈ b.values, column.length = b.rowCount

/-- There are as many rows as the block has. -/
theorem length_rows (b : ExampleBlock) : b.rows.length = b.rowCount := by
  unfold rows rowCount
  cases b.orientation with
  | horizontal => rfl
  | vertical => cases b.values <;> simp [transpose]

/-- A list is the list of its members by their places. -/
theorem map_range_getD {α : Type} (as : List α) (a : α) :
    (List.range as.length).map (fun i => as[i]?.getD a) = as := by
  apply List.ext_getElem
  · simp
  · intro i hi hi'
    simp [hi']

/-- What is at the same place of all columns, if they have this place. -/
theorem getElem?_filterMap_getElem? {columns : List (List Text)} {i : Nat}
    (h : ∀ column ∈ columns, i < column.length) (j : Nat) :
    (columns.filterMap (·[i]?))[j]? = columns[j]?.bind (·[i]?) := by
  induction columns generalizing j with
  | nil => rfl
  | cons column rest ih =>
    obtain ⟨cell, hcell⟩ : ∃ cell, column[i]? = some cell :=
      ⟨_, List.getElem?_eq_getElem (h column List.mem_cons_self)⟩
    rw [List.filterMap_cons, hcell]
    cases j with
    | zero => simp [hcell]
    | succ j => exact ih (fun c hc => h c (List.mem_cons_of_mem column hc)) j

/-- There are as many of them as columns. -/
theorem length_filterMap_getElem? {columns : List (List Text)} {i : Nat}
    (h : ∀ column ∈ columns, i < column.length) :
    (columns.filterMap (·[i]?)).length = columns.length := by
  induction columns with
  | nil => rfl
  | cons column rest ih =>
    have hcell := List.getElem?_eq_getElem (h column List.mem_cons_self)
    rw [List.filterMap_cons, hcell]
    exact congrArg (· + 1) (ih fun c hc => h c (List.mem_cons_of_mem column hc))

/-- A row of a vertical block goes across its columns. -/
theorem row_of_vertical {b : ExampleBlock} (hb : b.orientation = .vertical) {i : Nat}
    {row : List Text} (hrow : b.rows[i]? = some row) :
    i < b.rowCount ∧ row = b.values.filterMap (·[i]?) := by
  obtain ⟨hi, -⟩ := List.getElem?_eq_some_iff.mp hrow
  rw [length_rows] at hi
  refine ⟨hi, ?_⟩
  simp only [rows, hb, transpose] at hrow
  split at hrow
  · cases hrow
  · obtain ⟨hi', hrow⟩ := List.getElem?_eq_some_iff.mp hrow
    rw [List.getElem_map, List.getElem_range] at hrow
    exact hrow.symm

/-- A row holds the cells that are written in it. -/
theorem Rectangular.getElem?_row {b : ExampleBlock} (h : b.Rectangular) {i : Nat} {row : List Text}
    (hrow : b.rows[i]? = some row) (j : Nat) : row[j]? = b.cell? i j := by
  unfold cell?
  cases horientation : b.orientation with
  | horizontal =>
    rw [ExampleBlock.rows, horientation] at hrow
    simp only at hrow ⊢
    rw [hrow, Option.bind_some]
  | vertical =>
    obtain ⟨hi, rfl⟩ := row_of_vertical horientation hrow
    refine getElem?_filterMap_getElem? (fun column hcolumn => ?_) j
    rwa [(h.columns horientation).2 column hcolumn]

/-- A row has as many cells as there are columns. -/
theorem Rectangular.length_row {b : ExampleBlock} (h : b.Rectangular) {row : List Text}
    (hrow : row ∈ b.rows) : row.length = b.names.length := by
  cases horientation : b.orientation with
  | horizontal =>
    rw [ExampleBlock.rows, horientation] at hrow
    exact h.rows horientation row hrow
  | vertical =>
    obtain ⟨i, hi⟩ := List.getElem?_of_mem hrow
    obtain ⟨hcount, rfl⟩ := row_of_vertical horientation hi
    obtain ⟨hlength, hcolumns⟩ := h.columns horientation
    rw [← hlength]
    refine length_filterMap_getElem? fun column hcolumn => ?_
    rwa [hcolumns column hcolumn]

/-- The rows are the table of the cells. -/
theorem Rectangular.getElem?_rows {b : ExampleBlock} (h : b.Rectangular) (i j : Nat) :
    b.rows[i]?.bind (·[j]?) = b.cell? i j := by
  cases hrow : b.rows[i]? with
  | some row => exact h.getElem?_row hrow j
  | none =>
    -- below the last row there is no line, or no cell in any column
    rw [List.getElem?_eq_none_iff, length_rows] at hrow
    rw [Option.bind_none, cell?]
    cases horientation : b.orientation with
    | horizontal =>
      rw [rowCount, horientation] at hrow
      simp [List.getElem?_eq_none hrow]
    | vertical =>
      cases hcolumn : b.values[j]? with
      | none => rfl
      | some column =>
        have hlength := (h.columns horientation).2 column (List.mem_of_getElem? hcolumn)
        simp [hlength, hrow]

/-- Every row has a cell in every column. -/
theorem Rectangular.exists_cell {b : ExampleBlock} (h : b.Rectangular) {i j : Nat}
    (hi : i < b.rowCount) (hj : j < b.names.length) : ∃ cell, b.cell? i j = some cell := by
  unfold cell?
  cases horientation : b.orientation with
  | horizontal =>
    have hi' : i < b.values.length := by rwa [rowCount, horientation] at hi
    have hj' : j < b.values[i].length := by
      rwa [h.rows horientation b.values[i] (List.getElem_mem hi')]
    exact ⟨b.values[i][j], by simp [List.getElem?_eq_getElem hi', List.getElem?_eq_getElem hj']⟩
  | vertical =>
    obtain ⟨hcount, hlength⟩ := h.columns horientation
    have hj' : j < b.values.length := by rwa [hcount]
    have hi' : i < b.values[j].length := by
      rwa [hlength b.values[j] (List.getElem_mem hj')]
    exact ⟨b.values[j][i], by simp [List.getElem?_eq_getElem hj', List.getElem?_eq_getElem hi']⟩

/-! ## Blocks that are being read -/

/-- A block that is filled line by line: its columns may still be ragged. -/
structure Filled (b : ExampleBlock) : Prop where
  rows : b.orientation = .horizontal → ∀ row ∈ b.values, row.length = b.names.length
  columns : b.orientation = .vertical → b.values.length = b.names.length

/-- A block that has just been opened has no lines. -/
theorem filled_opened (orientation : Orientation) (line : Nat) :
    (opened orientation line).Filled :=
  ⟨fun _ _ hrow => absurd hrow List.not_mem_nil, fun _ => rfl⟩

/-- A block that is filled line by line is rectangular unless its columns are ragged. -/
theorem rectangular_of_raggedColumn? {b : ExampleBlock} (h : b.Filled)
    (heven : Draft.raggedColumn? b = none) : b.Rectangular := by
  refine ⟨h.rows, fun horientation => ⟨h.columns horientation, fun column hcolumn => ?_⟩⟩
  have hlength := h.columns horientation
  -- every column stands with its name, and the first one sets the number of rows
  cases hvalues : b.values with
  | nil =>
    rw [hvalues] at hcolumn
    cases hcolumn
  | cons first rest =>
    have hcount : b.rowCount = first.length := by rw [rowCount, horientation, hvalues]
    rw [hvalues] at hlength hcolumn
    cases hnames : b.names with
    | nil =>
      rw [hnames] at hlength
      cases hlength
    | cons name names =>
      rw [hnames] at hlength
      have hrest : rest.length = names.length := Nat.succ.inj hlength
      rw [Draft.raggedColumn?, horientation, hnames, hvalues, List.zip_cons_cons] at heven
      simp only [Option.map_eq_none_iff, List.find?_eq_none] at heven
      rw [hcount]
      rcases List.mem_cons.mp hcolumn with rfl | hmem
      · rfl
      · rw [← List.map_snd_zip (Nat.le_of_eq hrest)] at hmem
        obtain ⟨pair, hpair, rfl⟩ := List.mem_map.mp hmem
        simpa using heven pair hpair

end ExampleBlock

end FeatureDoc
