/-
# What the stored blocks hold

A block is stored when it is closed: by the line that opens the next one, by the next scenario, or
at the end of the document. No line is added to it after that, so that it holds the table that
stands below the line that opened it.

* `ExampleBlock.Distinct` : the columns of a vertical block have distinct names, and
  `Draft.Taken.distinct` : every line keeps them distinct;
* `ExampleBlock.WrittenIn` : a block is written in some lines;
* `Draft.Stored` : the invariant, and `Draft.Stored.feed` : every line keeps it;
* `Feature.blocks_of_parse` : every block of a document that is read is the table below its line.
-/
import FeatureDoc.Proofs.Reading.Blocks
import FeatureDoc.Proofs.Reading.Tables

namespace FeatureDoc

/-! ## The cells of a table -/

namespace ExampleBlock.SpelledBy

variable {b : ExampleBlock} {table : List Text}

/-- The lines of a horizontal block that is not empty are a header and rows. -/
theorem exists_header (h : b.SpelledBy table) (hb : b.orientation = .horizontal)
    (hfull : b.isEmpty = false) : ∃ header rows, table = header :: rows ∧
      b.names = (Line.splitCells (Line.stripComment header)).filter (· ≠ []) ∧
      b.rows = rows.map Line.splitCells := by
  cases h with
  | headless => cases hfull
  | rows header rows line => exact ⟨header, rows, rfl, rfl, rfl⟩
  | columns => cases hb

/-- The cells of a line are the name of its column and the values. -/
theorem getElem?_splitCells {columns : List (Text × List Text)}
    (h : table.map Line.splitCells = columns.map fun column => column.1 :: column.2) (j k : Nat) :
    (table[j]?.bind fun raw => (Line.splitCells raw)[k]?) =
      columns[j]?.bind fun column => (column.1 :: column.2)[k]? := by
  have hj := congrArg (fun cells => cells[j]?.bind (·[k]?)) h
  simpa only [List.getElem?_map, Option.bind_map, Function.comp_def] using hj

/-- The name of a column is the first cell of its line. -/
theorem getElem?_names (h : b.SpelledBy table) (hb : b.orientation = .vertical) (j : Nat) :
    b.names[j]? = table[j]?.bind fun raw => (Line.splitCells raw)[0]? := by
  cases h with
  | headless => cases hb
  | rows => cases hb
  | columns columns line hcells =>
    rw [getElem?_splitCells hcells, List.getElem?_map, Option.map_eq_bind]
    rfl

/-- The values of a column are the other cells of its line. -/
theorem getElem?_values (h : b.SpelledBy table) (hb : b.orientation = .vertical) (i j : Nat) :
    b.values[j]?.bind (·[i]?) = table[j]?.bind fun raw => (Line.splitCells raw)[i + 1]? := by
  cases h with
  | headless => cases hb
  | rows => cases hb
  | columns columns line hcells =>
    rw [getElem?_splitCells hcells, List.getElem?_map, Option.bind_map]
    rfl

/-- The first line of a vertical block that is not empty has a cell for every row. -/
theorem exists_first (h : b.SpelledBy table) (hb : b.orientation = .vertical)
    (hfull : b.isEmpty = false) : ∃ first rest, table = first :: rest ∧
      (Line.splitCells first).length = b.rowCount + 1 := by
  cases h with
  | headless => cases hb
  | rows => cases hb
  | columns columns line hcells =>
    cases columns with
    | nil => cases hfull
    | cons column more =>
      obtain ⟨first, rest, rfl, hfirst, -⟩ := List.map_eq_cons_iff.mp hcells
      exact ⟨first, rest, rfl, by rw [hfirst]; rfl⟩

end ExampleBlock.SpelledBy

/-! ## Distinct names -/

namespace ExampleBlock

/-- The columns of a vertical block have distinct names. -/
def Distinct (b : ExampleBlock) : Prop := b.orientation = .vertical → b.names.Nodup

/-- A block that has just been opened has no names. -/
theorem distinct_opened (orientation : Orientation) (line : Nat) :
    (opened orientation line).Distinct := fun _ => List.nodup_nil

/-- A column of a new name leaves the names distinct. -/
theorem Distinct.concat {b : ExampleBlock} (h : b.Distinct) {name : Text} (hnew : name ∉ b.names)
    (values : List (List Text)) :
    Distinct { b with names := b.names ++ [name], values } := by
  intro hvertical
  refine List.nodup_append.mpr ⟨h hvertical, List.pairwise_singleton _ name, ?_⟩
  intro other hother name' hname' heq
  rw [List.mem_singleton.mp hname'] at heq
  exact hnew (heq ▸ hother)

end ExampleBlock

namespace Draft

/-- Every line that is taken up leaves distinct names in the block that is being read. -/
theorem Taken.distinct {d d' : Draft} {line : Nat} {raw clean : Text} {c : Line.Classified}
    (h : Taken d line raw clean c d') (hfit : d.BlocksFit)
    (hd : ∀ b, d.openBlock? = some b → b.Distinct) :
    ∀ b, d'.openBlock? = some b → b.Distinct := by
  have hopened : ∀ (mode : Mode) {orientation : Orientation},
      (d.enter mode).declareExamples line orientation = .ok d' →
      ∀ b, d'.openBlock? = some b → b.Distinct := by
    intro mode orientation hok b hb
    obtain rfl := Option.some.inj ((openBlock?_of_declareExamples hok).symm.trans hb)
    exact ExampleBlock.distinct_opened orientation line
  have hfilled : ∀ (mode : Mode) (change : ExampleBlock → ExampleBlock),
      (∀ b, d.openBlock? = some b → (change b).Distinct) →
      ∀ b, ((d.enter mode).updateBlock change).openBlock? = some b → b.Distinct := by
    intro mode change hchange b' hb'
    rw [openBlock?_updateBlock] at hb'
    obtain ⟨b, hb, rfl⟩ := Option.map_eq_some_iff.mp hb'
    exact hchange b hb
  cases h with
  | scenario closed _ hclosed _ =>
    obtain ⟨journal, rfl⟩ := closeBlocks_eq_ok hclosed
    obtain ⟨journal', hscenario⟩ := openScenario_eq _ _
    rw [hscenario]
    rintro b ⟨⟩
  | background =>
    obtain ⟨journal, heq⟩ := declareBackground_eq (d.enter .background) line
    rw [heq]
    exact hd
  | examples _ _ hok => exact hopened .examples hok
  | verticalExamples _ _ hok => exact hopened .verticalExamples hok
  | header _ hmode =>
    refine hfilled .header _ fun b hb hvertical => ?_
    obtain ⟨b', hb', hhorizontal⟩ := hfit.horizontal (Or.inl hmode)
    obtain rfl := Option.some.inj (hb.symm.trans hb')
    cases hvertical.symm.trans hhorizontal
  | row _ _ _ hadded =>
    obtain ⟨-, rfl⟩ := addRow_eq_ok hadded
    exact hfilled .row _ hd
  | column _ _ _ hadded =>
    obtain ⟨name, cells, -, hnew, rfl⟩ := addColumn_eq_ok hadded
    exact hfilled .column _ fun b hb => (hd b hb).concat (hnew b hb) _
  | step type _ _ hadded =>
    obtain ⟨-, step, steps, -, -, rfl⟩ := declareStep_eq_ok hadded
    exact hd
  | named | prose | scenarioProse | backgroundProse | tag | nothing => exact hd

end Draft

/-! ## Closed blocks -/

/-- A block is written in some lines: one of them opens it, and the lines below that one spell it.
The mode tells what the next plain line means. -/
def ExampleBlock.WrittenIn (ls : List Text) (mode : Option Draft.Mode) (b : ExampleBlock) : Prop :=
  ∃ front opening body, ls = front ++ opening :: body ∧ Draft.Spells mode b front opening body

/-- No more lines are added to a block if a line below it declares something, or if the mode is none
that fills a block. -/
theorem ExampleBlock.WrittenIn.leave {ls : List Text} {mode : Option Draft.Mode}
    {b : ExampleBlock} (h : b.WrittenIn ls mode) {raw : Text}
    (hraw : Line.isPlain raw = false ∨ ∀ m ∈ mode, m.fills = false) :
    b.WrittenIn (ls ++ [raw]) none := by
  obtain ⟨front, opening, body, rfl, hspells⟩ := h
  exact ⟨front, opening, body ++ [raw], by simp, hspells.leave hraw nofun⟩

namespace Draft

/-- What holds of the blocks of a draft after some lines. -/
structure Stored (done : List Text) (d : Draft) : Prop where
  /-- Closed blocks are written in these lines, and no line goes on with them. -/
  closed : ∀ b ∈ d.feature.allExamples, b.Distinct ∧ b.WrittenIn done none
  /-- The names in the block that is being read are distinct so far. -/
  reading : ∀ b, d.openBlock? = some b → b.Distinct

/-- There are no blocks before the first line. -/
theorem stored_start (path relativePath : Path) : Stored [] (start path relativePath) :=
  ⟨by rintro b ⟨⟩, by rintro b ⟨⟩⟩

/-- What remains of a block that was being read is the block that lines were added to. -/
theorem BlocksFit.openBlock?_of_remaining {d : Draft} (hd : d.BlocksFit) {b : ExampleBlock}
    (h : b ∈ remaining d.scenarioBlock ∨ b ∈ remaining d.featureBlock) : d.openBlock? = some b :=
  hd.openBlock?_of_block (h.imp eq_some_of_mem_remaining eq_some_of_mem_remaining)

namespace Stored

variable {done : List Text} {d d' : Draft} {raw : Text}

/-- Closed blocks stay as they are below any further line. -/
theorem closed_concat (h : Stored done d) (raw : Text) :
    ∀ b ∈ d.feature.allExamples, b.Distinct ∧ b.WrittenIn (done ++ [raw]) none := by
  intro b hb
  obtain ⟨hdistinct, hwritten⟩ := h.closed b hb
  exact ⟨hdistinct, hwritten.leave (Or.inr nofun)⟩

/-- Every line that is taken up leaves what it closes as it is written above. -/
theorem taken (h : Stored done d) (hfit : d.BlocksFit) (hspelled : Spelled done d)
    (htaken : Taken d (done.length + 1) raw (Line.stripComment raw)
      (Line.classify (Line.stripComment raw)) d') : Stored (done ++ [raw]) d' := by
  refine ⟨fun b hb => ?_, htaken.distinct hfit h.reading⟩
  rcases htaken.block_origin hb with hold | ⟨hdeclares, -, hold | hremains⟩
  · exact h.closed_concat raw b hold
  · exact h.closed_concat raw b hold
  · -- only a line that declares something closes the block that was being read
    have hkind : (Line.classify (Line.stripComment raw)).kind ≠ none :=
      hdeclares.resolve_right fun hmode =>
        hmode.elim (fun hm => (hspelled.mode _ hm).1 rfl) fun hm => (hspelled.mode _ hm).2 rfl
    obtain ⟨kind, hkind⟩ := Option.ne_none_iff_exists'.mp hkind
    have hopen := hfit.openBlock?_of_remaining hremains
    have hwritten : b.WrittenIn done d.mode := hspelled.block b hopen
    exact ⟨h.reading b hopen, hwritten.leave (Or.inl (Line.isPlain_of_kind_eq_some hkind))⟩

/-- Every line leaves what it closes as it is written above. -/
theorem feed (h : Stored done d) (hd : d.Valid) (hspelled : Spelled done d)
    (hfeed : d.feed (done.length + 1) raw = .ok d') : Stored (done ++ [raw]) d' := by
  rcases feed_cases hfeed with ⟨-, rfl⟩ | ⟨-, -, -, rfl⟩ | ⟨-, e, rfl, htaken⟩
  · refine ⟨?_, ?_⟩
    · rw [allExamples_capture]
      exact h.closed_concat raw
    · unfold Draft.capture
      split <;> exact h.reading
  · exact ⟨h.closed_concat raw, h.reading⟩
  · have hbefore : Stored done (d.beforeTaking (done.length + 1) raw) := ⟨h.closed, h.reading⟩
    have hfit : (d.beforeTaking (done.length + 1) raw).BlocksFit := { hd with }
    have hspelled' : Spelled done (d.beforeTaking (done.length + 1) raw) :=
      { hspelled with openStep := fun hne => absurd rfl hne }
    exact { hbefore.taken hfit hspelled' htaken with }

end Stored

/-- After any lines that cause no fault, the closed blocks are written in them. -/
theorem stored_of_feedAll {path relativePath : Path} {ls : List Text} {d : Draft}
    (h : (start path relativePath).feedAll 1 ls = .ok d) : Stored ls d :=
  (feedAll_induction_lines (P := fun done d => (d.Valid ∧ Spelled done d) ∧ Stored done d)
    (fun ⟨⟨hvalid, hspelled⟩, hstored⟩ hfeed =>
      ⟨⟨valid_of_feed hvalid hfeed, hspelled.feed hfeed⟩, hstored.feed hvalid hspelled hfeed⟩)
    ⟨⟨valid_start path relativePath, spelled_start path relativePath⟩,
      stored_start path relativePath⟩ h).2

end Draft

/-! ## Whole documents -/

/-- All example blocks of a document that is read have distinct columns and are written in its
lines. -/
theorem Feature.written_of_parse {t : Text} {f : Feature} (h : parse t = .ok f) :
    ∀ b ∈ f.allExamples, b.Distinct ∧ ∃ mode, b.WrittenIn (Text.lines t) mode := by
  obtain ⟨d, e, hlines, hend, rfl⟩ := Draft.exists_of_parse_eq_ok h
  have hstored := Draft.stored_of_feedAll hlines
  obtain ⟨closed, hclosed, hfinished⟩ := exists_of_bind_eq_ok hend
  obtain rfl := Except.ok.inj hfinished
  intro b hb
  have hbefore : b ∈ d.feature.allExamples → b.Distinct ∧ ∃ mode, b.WrittenIn (Text.lines t) mode :=
    fun hold => (hstored.closed b hold).imp_right fun hwritten => ⟨none, hwritten⟩
  rcases Draft.closed_of_closeBlocks hclosed hb with hold | ⟨-, hold | hremains⟩
  · exact hbefore hold
  · exact hbefore hold
  · have hopen := (Draft.valid_of_feedAll hlines).openBlock?_of_remaining hremains
    exact ⟨hstored.reading b hopen, d.mode, (Draft.spelled_of_feedAll hlines).block b hopen⟩

/-- All example blocks of a document that is read are rectangular, and are the tables below the
lines that open them. A row of a horizontal block is a line below the header. A line of a vertical
block is a column below its name, and no two columns have the same name. -/
theorem Feature.blocks_of_parse {t : Text} {f : Feature} (h : parse t = .ok f) :
    ∀ b ∈ f.allExamples,
      (∀ row ∈ b.rows, row.length = b.names.length) ∧
      ∃ front opening below, Text.lines t = front ++ opening :: below ∧
        b.line = front.length + 1 ∧
        (Line.classify (Line.stripComment opening)).kind =
          some (Draft.openingKind b.orientation) ∧
        let table := Line.tableLines below
        (b.orientation = .horizontal → ∃ header rows, table = header :: rows ∧
          b.names = (Line.splitCells (Line.stripComment header)).filter (· ≠ []) ∧
          b.rows = rows.map Line.splitCells) ∧
        (b.orientation = .vertical → b.names.Nodup ∧
          (∀ j : Nat, b.names[j]? = table[j]?.bind fun raw => (Line.splitCells raw)[0]?) ∧
          (∀ i j : Nat, b.rows[i]?.bind (·[j]?) =
            table[j]?.bind fun raw => (Line.splitCells raw)[i + 1]?) ∧
          ∃ first rest, table = first :: rest ∧
            (Line.splitCells first).length = b.rows.length + 1) := by
  intro b hb
  have hrectangular := rectangular_of_parse h b hb
  have hfull := isEmpty_of_parse h b hb
  obtain ⟨hdistinct, mode, front, opening, below, hlines, hspells⟩ := written_of_parse h b hb
  refine ⟨fun row => hrectangular.length_row, front, opening, below, hlines, hspells.line,
    hspells.kind, fun hhorizontal => hspells.table.exists_header hhorizontal hfull,
    fun hvertical => ⟨hdistinct hvertical, hspells.table.getElem?_names hvertical, ?_, ?_⟩⟩
  · intro i j
    rw [hrectangular.getElem?_rows, ExampleBlock.cell?, hvertical]
    exact hspells.table.getElem?_values hvertical i j
  · rw [ExampleBlock.length_rows]
    exact hspells.table.exists_first hvertical hfull

/-- Two blocks of a scenario, of which the second closes the first one, and one of the feature.
Blank lines and comments between their lines do not count. -/
theorem Feature.blocks_of_parse_of_scopes :
    let t : Text := "Feature: F\nExamples:\n| n |\n| 5 |\nScenario: S\nGiven <n>\n" ++
      "Examples: Vertical\n\n| a | 1 | 2 |\n# late\n| b | 3 | 4 |\n" ++
      "Examples:\n| c | d |\n| 6 | 7 |\n"
    ∃ f, parse t = .ok f ∧
      f.allExamples.map (fun b => (b.line, b.names, b.rows)) =
        [(7, [['a'], ['b']], [[['1'], ['3']], [['2'], ['4']]]),
          (12, [['c'], ['d']], [[['6'], ['7']]]), (2, [['n']], [[['5']]])] ∧
      ∀ b ∈ f.allExamples, (∀ row ∈ b.rows, row.length = b.names.length) ∧
        ∃ front opening below, Text.lines t = front ++ opening :: below ∧
          b.line = front.length + 1 ∧ (b.orientation = .vertical → b.names.Nodup) := by
  intro t
  have hread : parse t = .ok _ := rfl
  refine ⟨_, hread, rfl, fun b hb => ?_⟩
  obtain ⟨hwidth, front, opening, below, hlines, hline, -, -, hvertical⟩ :=
    blocks_of_parse hread b hb
  exact ⟨hwidth, front, opening, below, hlines, hline, fun hb => (hvertical hb).1⟩

end FeatureDoc
