/-
# What is wrong with a document, and where

A document that cannot be read has one fault, which names a line. The line is one of the
document, the lines above it can be read, and what the fault says about it can be found there.

* `Draft.Refused` : all that can be wrong with a line that is taken up;
* `Draft.exists_of_feedAll_eq_error` : the first line at fault;
* `found_of_parse_eq_error` : where a fault is, and what it says.
-/
import FeatureDoc.Proofs.Reading.Blocks

namespace FeatureDoc

namespace Draft

/-! ## Blocks that are closed -/

/-- Reading stops at an example block that is being read, with the fault that it has. -/
def StopsAtBlock (d : Draft) (halt : Halt) : Prop :=
  ∃ b, (d.scenarioBlock = some b ∨ d.featureBlock = some b) ∧
    raggedColumn? b = some halt.error.fault ∧ halt.error.line = b.line

/-- A block is at fault if it is ragged, on the line that opens it. -/
theorem checkBlock_eq_error {d : Draft} {b : ExampleBlock} {halt : Halt}
    (h : d.checkBlock b = .error halt) :
    raggedColumn? b = some halt.error.fault ∧ halt.error.line = b.line := by
  unfold checkBlock at h
  split at h
  · cases h
  · split at h
    · rename_i fault hragged
      obtain rfl := Except.error.inj h
      exact ⟨hragged, rfl⟩
    · cases h

/-- Closing the block of the open scenario stops at that block. -/
theorem closeScenarioBlock_eq_error {d : Draft} {halt : Halt}
    (h : d.closeScenarioBlock = .error halt) : d.StopsAtBlock halt := by
  unfold closeScenarioBlock at h
  split at h
  · cases h
  · rename_i b hblock
    exact ⟨b, Or.inl hblock, checkBlock_eq_error (eq_error_of_map_eq_error h)⟩

/-- Closing the block of the feature stops at that block. -/
theorem closeFeatureBlock_eq_error {d : Draft} {halt : Halt}
    (h : d.closeFeatureBlock = .error halt) : d.StopsAtBlock halt := by
  unfold closeFeatureBlock at h
  split at h
  · cases h
  · rename_i b hblock
    exact ⟨b, Or.inr hblock, checkBlock_eq_error (eq_error_of_map_eq_error h)⟩

/-- Closing both blocks stops at one of them. -/
theorem closeBlocks_eq_error {d : Draft} {halt : Halt} (h : d.closeBlocks = .error halt) :
    d.StopsAtBlock halt := by
  rcases eq_error_of_bind_eq_error h with hscenario | ⟨closed, hclosed, hfeature⟩
  · exact closeScenarioBlock_eq_error hscenario
  · obtain ⟨-, journal, rfl⟩ := closeScenarioBlock_eq_ok hclosed
    obtain ⟨b, hblock | hblock, hragged⟩ := closeFeatureBlock_eq_error hfeature
    · cases hblock
    · exact ⟨b, Or.inr hblock, hragged⟩

/-- Opening a block stops at the one before it. -/
theorem declareExamples_eq_error {d : Draft} {line : Nat} {orientation : Orientation}
    {halt : Halt} (h : d.declareExamples line orientation = .error halt) :
    d.StopsAtBlock halt := by
  unfold declareExamples at h
  split at h
  · rcases eq_error_of_bind_eq_error h with hclosed | ⟨closed, -, hopened⟩
    · exact closeScenarioBlock_eq_error hclosed
    · cases hopened
  · rcases eq_error_of_bind_eq_error h with hclosed | ⟨closed, -, hopened⟩
    · exact closeFeatureBlock_eq_error hclosed
    · cases hopened

/-! ## Lines at fault -/

/-- All that can be wrong with a line that is taken up: the fault, and the number of the line that
it is reported for. -/
inductive Refused (d : Draft) (line : Nat) (raw clean : Text) (c : Line.Classified) :
    Halt → Prop where
  /-- The line stands where it must not. -/
  | misplaced {halt : Halt} (fault : StructureFault) (hline : halt.error.line = line)
      (hfault : halt.error.fault = .misplaced fault clean) : Refused d line raw clean c halt
  /-- The line is a step that may stand here, but there are no steps that it joins. -/
  | unowned {halt : Halt} (hallowed : d.scenario ≠ none ∨ d.takesBackgroundStep = true)
      (hsteps : d.steps? d.stepOwner = none) : Refused d line raw clean c halt
  /-- A parameter of the step is at fault. -/
  | parameter {halt : Halt} {cause : Param.ScanError} (hscan : Param.scan c.text = .error cause)
      (hline : halt.error.line = line) (hfault : halt.error.fault = .parameter cause c.text) :
      Refused d line raw clean c halt
  /-- The row has not as many cells as the header. -/
  | raggedRow {halt : Halt} {b : ExampleBlock} (hkind : c.kind = none)
      (hmode : d.mode = some .row) (hopen : d.openBlock? = some b)
      (hlength : (Line.splitCells (Text.trim raw)).length ≠ b.names.length)
      (hline : halt.error.line = line)
      (hfault : halt.error.fault = .raggedRow b.names.length
        (Line.splitCells (Text.trim raw)).length (Text.trim raw)) : Refused d line raw clean c halt
  /-- The column has no cell. -/
  | namelessColumn {halt : Halt} (hkind : c.kind = none) (hmode : d.mode = some .column)
      (hcells : Line.splitCells (Text.trim raw) = []) (hline : halt.error.line = line)
      (hfault : halt.error.fault = .namelessColumn (Text.trim raw)) :
      Refused d line raw clean c halt
  /-- The block has a column of this name already. -/
  | duplicateColumn {halt : Halt} {name : Text} {cells : List Text} {b : ExampleBlock}
      (hkind : c.kind = none) (hmode : d.mode = some .column)
      (hcells : Line.splitCells (Text.trim raw) = name :: cells) (hopen : d.openBlock? = some b)
      (hname : name ∈ b.names) (hline : halt.error.line = line)
      (hfault : halt.error.fault = .duplicateColumn name) : Refused d line raw clean c halt
  /-- The line closes a block that is ragged. -/
  | raggedBlock {halt : Halt}
      (hkind : c.kind ≠ none ∨ d.mode = some .examples ∨ d.mode = some .verticalExamples)
      (hblock : d.StopsAtBlock halt) : Refused d line raw clean c halt

variable {d : Draft} {line : Nat} {raw clean : Text} {c : Line.Classified} {halt : Halt}

/-- A line of the feature can only be misplaced. -/
theorem refused_of_takeFeatureLine (h : d.takeFeatureLine line clean c = .error halt) :
    Refused d line raw clean c halt := by
  have hfail : d.fail (α := Draft) line (.misplaced .secondFeature clean) = .error halt →
      Refused d line raw clean c halt := by
    intro hfail
    obtain rfl := Except.error.inj hfail
    exact .misplaced .secondFeature rfl rfl
  unfold takeFeatureLine at h
  simp only at h
  split at h
  · split at h
    · cases h
    · exact hfail h
  · split at h
    · cases h
    · exact hfail h
  · cases h
  · exact hfail h

/-- A line that declares a scenario is at fault if a block is, or if the scenario before it has no
step. -/
theorem refused_of_declareScenario (hkind : c.kind ≠ none)
    (h : (d.enter .scenario).declareScenario line clean c = .error halt) :
    Refused d line raw clean c halt := by
  rcases eq_error_of_bind_eq_error h with hclosed | ⟨closed, -, hopened⟩
  · obtain ⟨b, hblock, hragged⟩ := closeBlocks_eq_error hclosed
    exact .raggedBlock (Or.inl hkind) ⟨b, hblock, hragged⟩
  · split at hopened
    · rename_i name _
      obtain rfl := Except.error.inj hopened
      exact .misplaced (.stepless name) rfl rfl
    · cases hopened

/-- A line that opens a block is at fault if the block before it is. -/
theorem refused_of_declareExamples {mode : Mode} {orientation : Orientation}
    (hkind : c.kind ≠ none ∨ d.mode = some .examples ∨ d.mode = some .verticalExamples)
    (h : (d.enter mode).declareExamples line orientation = .error halt) :
    Refused d line raw clean c halt := by
  obtain ⟨b, hblock, hragged⟩ := declareExamples_eq_error h
  exact .raggedBlock hkind ⟨b, hblock, hragged⟩

/-- A step is at fault if it may not stand here, or if one of its parameters is. -/
theorem refused_of_declareStep {type : StepType}
    (h : d.declareStep line raw clean type c = .error halt) : Refused d line raw clean c halt := by
  unfold declareStep at h
  split at h
  · obtain rfl := Except.error.inj h
    exact .misplaced .strayStep rfl rfl
  · rename_i hguard
    have hallowed : d.scenario ≠ none ∨ d.takesBackgroundStep = true := by
      by_cases hscenario : d.scenario = none
      · exact Or.inr (by simpa [hscenario] using hguard)
      · exact Or.inl hscenario
    unfold addStep at h
    split at h
    · rename_i cause hstep
      obtain rfl := Except.error.inj h
      have hscan : Param.scan c.text = .error cause := by
        rcases eq_error_of_bind_eq_error hstep with hscan | ⟨scanned, -, hok⟩
        · exact hscan
        · cases hok
      exact .parameter hscan rfl rfl
    · split at h
      · rename_i hsteps
        exact .unowned hallowed hsteps
      · cases h

/-- A row is at fault if its cells are not as many as the names. -/
theorem refused_of_addRow (hkind : c.kind = none) (hmode : d.mode = some .row)
    (h : (d.enter .row).addRow line (Text.trim raw) = .error halt) :
    Refused d line raw clean c halt := by
  unfold addRow at h
  simp only at h
  split at h
  · cases h
  · rename_i b hopen
    split at h
    · rename_i hlength
      obtain rfl := Except.error.inj h
      exact .raggedRow hkind hmode hopen hlength rfl rfl
    · cases h

/-- A column is at fault if it has no name, or one that the block has already. -/
theorem refused_of_addColumn (hkind : c.kind = none) (hmode : d.mode = some .column)
    (h : (d.enter .column).addColumn line (Text.trim raw) = .error halt) :
    Refused d line raw clean c halt := by
  unfold addColumn at h
  split at h
  · rename_i hcells
    obtain rfl := Except.error.inj h
    exact .namelessColumn hkind hmode hcells rfl rfl
  · rename_i name cells hcells
    split at h
    · cases h
    · rename_i b hopen
      split at h
      · rename_i hname
        obtain rfl := Except.error.inj h
        exact .duplicateColumn hkind hmode hcells hopen hname rfl rfl
      · cases h

/-- A plain line is at fault as the mode says. -/
theorem refused_of_takePlainLine (hkind : c.kind = none)
    (h : d.takePlainLine line raw clean c = .error halt) : Refused d line raw clean c halt := by
  unfold takePlainLine at h
  split at h
  · cases h
  · cases h
  · exact refused_of_takeFeatureLine h
  · cases h
  · cases h
  · exact refused_of_declareExamples (Or.inr (Or.inl ‹_›)) h
  · exact refused_of_declareExamples (Or.inr (Or.inr ‹_›)) h
  · cases h
  · exact refused_of_addRow hkind ‹_› h
  · exact refused_of_addColumn hkind ‹_› h
  · exact refused_of_declareStep h

/-- A line at fault is so in one of the ways. -/
theorem refused_of_declare (h : d.declare line raw clean c = .error halt) :
    Refused d line raw clean c halt := by
  unfold declare at h
  split at h
  · exact refused_of_takeFeatureLine h
  · rename_i hkind
    exact refused_of_declareScenario (by simp [hkind]) h
  · rename_i hkind
    exact refused_of_declareScenario (by simp [hkind]) h
  · cases h
  · rename_i hkind
    exact refused_of_declareExamples (Or.inl (by simp [hkind])) h
  · rename_i hkind
    exact refused_of_declareExamples (Or.inl (by simp [hkind])) h
  · exact refused_of_declareStep h
  · cases h
  · split at h
    · exact refused_of_declareStep h
    · obtain rfl := Except.error.inj h
      exact .misplaced .continuationOfNothing rfl rfl
  · exact refused_of_takePlainLine ‹_› h

/-- A line that is at fault is taken up, and refused in one of the ways. -/
theorem refused_of_feed (h : d.feed line raw = .error halt) :
    Refused (d.beforeTaking line raw) line raw (Line.stripComment raw)
      (Line.classify (Line.stripComment raw)) halt := by
  unfold feed at h
  split at h
  · cases h
  · simp only at h
    split at h
    · cases h
    · rcases eq_error_of_bind_eq_error h with hdeclare | ⟨e, -, hok⟩
      · exact refused_of_declare hdeclare
      · cases hok

/-- Lines with a fault among them have a first line at fault. -/
theorem exists_of_feedAll_eq_error {d : Draft} {line : Nat} {ls : List Text} {halt : Halt}
    (h : d.feedAll line ls = .error halt) : ∃ above raw below e,
      ls = above ++ raw :: below ∧ d.feedAll line above = .ok e ∧
      e.feed (line + above.length) raw = .error halt := by
  induction ls generalizing d line with
  | nil => cases h
  | cons raw rest ih =>
    rcases eq_error_of_bind_eq_error h with hfirst | ⟨e, hfirst, hrest⟩
    · exact ⟨[], raw, rest, d, rfl, rfl, hfirst⟩
    · obtain ⟨above, raw', below, e', rfl, habove, hraw⟩ := ih hrest
      refine ⟨raw :: above, raw', below, e', rfl, ?_, ?_⟩
      · rw [feedAll, hfirst]
        exact habove
      · rwa [add_length_cons]

/-- A document that cannot be read has a line at fault, or a block at its end. -/
theorem exists_of_parse_eq_error {t : Text} {e : ReadError} (h : parse t = .error e) :
    ∃ halt, halt.error = e ∧ ((start [] []).feedAll 1 (Text.lines t) = .error halt ∨
      ∃ d, (start [] []).feedAll 1 (Text.lines t) = .ok d ∧ d.StopsAtBlock halt) := by
  unfold parse readDocument at h
  split at h
  · cases h
  · rename_i halt hread
    refine ⟨halt, Except.error.inj h, ?_⟩
    rcases eq_error_of_bind_eq_error hread with hlines | ⟨d, hlines, hend⟩
    · exact Or.inl hlines
    · rcases eq_error_of_bind_eq_error hend with hclosed | ⟨e, -, hok⟩
      · obtain ⟨b, hblock, hragged⟩ := closeBlocks_eq_error hclosed
        exact Or.inr ⟨d, hlines, b, hblock, hragged⟩
      · cases hok

end Draft

/-! ## What a fault says -/

/-- Some lines can be read, and the last block that they open is spelled by all lines below its
opening, so that the next plain line goes on with it. -/
def Draft.Leaves (above : List Text) (b : ExampleBlock) (table : List Text) : Prop :=
  ∃ d front opening body, (Draft.start [] []).feedAll 1 above = .ok d ∧ d.openBlock? = some b ∧
    above = front ++ opening :: body ∧ Draft.Spells d.mode b front opening body ∧
    body.all Line.isPlain = true ∧ Line.tableLines body = table

/-- What is wrong on a line, by what stands on it, above it and below it. -/
inductive ReadFault.Found (above : List Text) (raw : Text) (below : List Text) :
    ReadFault → Prop where
  /-- The line is shown without its comment. -/
  | misplaced (fault : StructureFault) :
      Found above raw below (.misplaced fault (Line.stripComment raw))
  /-- The line is a row below the header of a horizontal block, and has not as many cells as the
  header has names. -/
  | raggedRow {b : ExampleBlock} {header : Text} {rows : List Text}
      (hblock : Draft.Leaves above b (header :: rows)) (horientation : b.orientation = .horizontal)
      (hnames : b.names = (Line.splitCells (Line.stripComment header)).filter (· ≠ []))
      (hlength : (Line.splitCells raw).length ≠ b.names.length) : Found above raw below
        (.raggedRow b.names.length (Line.splitCells raw).length (Text.trim raw))
  /-- The line goes on with a vertical block, and has no cell. -/
  | namelessColumn {b : ExampleBlock} {columns : List Text}
      (hblock : Draft.Leaves above b columns) (horientation : b.orientation = .vertical)
      (hcells : Line.splitCells raw = []) : Found above raw below (.namelessColumn (Text.trim raw))
  /-- The line goes on with a vertical block, and has the first cell of an earlier line. -/
  | duplicateColumn {b : ExampleBlock} {columns : List Text} {earlier name : Text}
      {cells cells' : List Text} (hblock : Draft.Leaves above b columns)
      (horientation : b.orientation = .vertical) (hcells : Line.splitCells raw = name :: cells)
      (hearlier : earlier ∈ columns) (hcells' : Line.splitCells earlier = name :: cells') :
      Found above raw below (.duplicateColumn name)
  /-- The text of the line has a parameter that is at fault. -/
  | parameter {cause : Param.ScanError}
      (hscan : Param.scan (Line.classify (Line.stripComment raw)).text = .error cause) :
      Found above raw below (.parameter cause (Line.classify (Line.stripComment raw)).text)
  /-- The line opens a vertical block. The first of the columns below it that has not as many
  values as the very first one is named. -/
  | raggedColumn {header column first name : Text} {before after expected found : List Text}
      (hkind : (Line.classify (Line.stripComment raw)).kind = some .verticalExamples)
      (htable : Line.tableLines below = header :: before ++ column :: after)
      (hheader : Line.splitCells header = first :: expected)
      (hcolumn : Line.splitCells column = name :: found)
      (hlength : found.length ≠ expected.length)
      (hbefore : ∀ earlier ∈ before, (Line.splitCells earlier).length = expected.length + 1) :
      Found above raw below (.raggedColumn first name expected.length found.length)

/-- The names of a vertical block stand in its lines. -/
theorem ExampleBlock.SpelledBy.exists_of_mem_names {b : ExampleBlock} {table : List Text}
    (h : b.SpelledBy table) (hb : b.orientation = .vertical) {name : Text}
    (hname : name ∈ b.names) :
    ∃ raw ∈ table, ∃ cells, Line.splitCells raw = name :: cells := by
  cases h with
  | headless => cases hb
  | rows => cases hb
  | columns columns line htable =>
    obtain ⟨column, hcolumn, rfl⟩ := List.mem_map.mp hname
    have hcells : column.1 :: column.2 ∈ table.map Line.splitCells :=
      htable ▸ List.mem_map_of_mem hcolumn
    obtain ⟨raw, hraw, heq⟩ := List.mem_map.mp hcells
    exact ⟨raw, hraw, column.2, heq⟩

/-- The columns of a ragged block stand in its lines. -/
theorem ExampleBlock.SpelledBy.exists_of_raggedColumn? {b : ExampleBlock} {table : List Text}
    (h : b.SpelledBy table) {fault : ReadFault} (hragged : Draft.raggedColumn? b = some fault) :
    b.orientation = .vertical ∧ ∃ header column first name before after expected found,
      fault = .raggedColumn first name (List.length expected) (List.length found) ∧
      table = header :: before ++ column :: after ∧
      Line.splitCells header = first :: expected ∧ Line.splitCells column = name :: found ∧
      found.length ≠ expected.length ∧
      ∀ earlier ∈ before, (Line.splitCells earlier).length = expected.length + 1 := by
  cases h with
  | headless => cases hragged
  | rows => cases hragged
  | columns columns line htable =>
    have hzip : (columns.map (·.1)).zip (columns.map (·.2)) = columns := by
      rw [List.zip_map']
      exact List.map_id columns
    simp only [Draft.raggedColumn?, hzip] at hragged
    cases columns with
    | nil => cases hragged
    | cons firstColumn more =>
      obtain ⟨⟨name, found⟩, hfirst, rfl⟩ := Option.map_eq_some_iff.mp hragged
      obtain ⟨hlength, before', after', rfl, hbefore⟩ := List.find?_eq_some_iff_append.mp hfirst
      obtain ⟨header, lines, rfl, hheader, hlines⟩ := List.map_eq_cons_iff.mp htable
      obtain ⟨before, rest, rfl, hbefore', hrest⟩ := List.map_eq_append_iff.mp
        (hlines.trans List.map_append)
      obtain ⟨column, after, rfl, hcolumn, -⟩ := List.map_eq_cons_iff.mp hrest
      refine ⟨rfl, header, column, firstColumn.1, name, before, after, firstColumn.2, found, rfl,
        rfl, hheader, hcolumn, by simpa using hlength, ?_⟩
      intro earlier hearlier
      have hcells : Line.splitCells earlier ∈ before'.map fun column => column.1 :: column.2 :=
        hbefore' ▸ List.mem_map_of_mem hearlier
      obtain ⟨earlier', hearlier', heq⟩ := List.mem_map.mp hcells
      have heven := hbefore earlier' hearlier'
      simp only [ne_eq, decide_not, Bool.not_not, decide_eq_true_eq] at heven
      rw [← heq, List.length_cons, heven]

namespace Draft

variable {above below : List Text} {raw : Text} {d : Draft} {halt : Halt}

/-- In a mode that fills a block, the lines leave that block behind. -/
theorem Spelled.exists_leaves (h : Spelled above d)
    (habove : (start [] []).feedAll 1 above = .ok d) {b : ExampleBlock}
    (hopen : d.openBlock? = some b) {m : Mode} (hm : d.mode = some m) (hfills : m.fills = true) :
    ∃ table, Leaves above b table ∧ b.SpelledBy table ∧ tableMode b.orientation table = m := by
  obtain ⟨front, opening, body, hlines, hspells⟩ := h.block b hopen
  have hbody := hspells.all_of_fills hm hfills
  exact ⟨_, ⟨d, front, opening, body, habove, hopen, hlines, hspells, hbody, rfl⟩, hspells.table,
    Option.some.inj ((hspells.filling hbody).symm.trans hm)⟩

/-- A line at fault shows its fault itself, unless it closes a block at which reading stops. -/
theorem found_of_feed (habove : (start [] []).feedAll 1 above = .ok d)
    (h : d.feed (above.length + 1) raw = .error halt) :
    (halt.error.line = above.length + 1 ∧ halt.error.fault.Found above raw below) ∨
      (Line.isPlain raw = false ∧ d.StopsAtBlock halt) := by
  have hspelled := spelled_of_feedAll habove
  have hvalid := valid_of_feedAll habove
  cases refused_of_feed h with
  | misplaced fault hline hfault => exact Or.inl ⟨hline, hfault ▸ .misplaced fault⟩
  | unowned hallowed hsteps =>
    obtain ⟨steps, hsome⟩ := hvalid.exists_steps? hallowed
    have hnone : d.steps? d.stepOwner = none := hsteps
    cases hnone.symm.trans hsome
  | parameter hscan hline hfault => exact Or.inl ⟨hline, hfault ▸ .parameter hscan⟩
  | @raggedRow b hkind hmode hopen hlength hline hfault =>
    obtain ⟨table, hleaves, htable, hsame⟩ := hspelled.exists_leaves habove hopen hmode rfl
    obtain ⟨hhorizontal, header, rows, rfl⟩ := tableMode_eq_row hsame
    have hnames : b.names = (Line.splitCells (Line.stripComment header)).filter (· ≠ []) := by
      cases htable with
      | rows => rfl
      | columns => cases hhorizontal
    rw [Line.splitCells_trim] at hlength hfault
    exact Or.inl ⟨hline, hfault ▸ .raggedRow hleaves hhorizontal hnames hlength⟩
  | namelessColumn hkind hmode hcells hline hfault =>
    obtain ⟨b, hopen, -⟩ := hvalid.vertical hmode
    obtain ⟨table, hleaves, -, hsame⟩ := hspelled.exists_leaves habove hopen hmode rfl
    rw [Line.splitCells_trim] at hcells
    exact Or.inl ⟨hline, hfault ▸ .namelessColumn hleaves (tableMode_eq_column hsame) hcells⟩
  | @duplicateColumn name cells b hkind hmode hcells hopen hname hline hfault =>
    obtain ⟨table, hleaves, htable, hsame⟩ := hspelled.exists_leaves habove hopen hmode rfl
    have hvertical := tableMode_eq_column hsame
    obtain ⟨earlier, hearlier, cells', hcells'⟩ := htable.exists_of_mem_names hvertical hname
    rw [Line.splitCells_trim] at hcells
    exact Or.inl ⟨hline,
      hfault ▸ .duplicateColumn hleaves hvertical hcells hearlier hcells'⟩
  | raggedBlock hkind hblock =>
    refine Or.inr ⟨?_, hblock⟩
    have hdeclares : (Line.classify (Line.stripComment raw)).kind ≠ none :=
      hkind.resolve_right fun hmode =>
        hmode.elim (fun hm => (hspelled.mode _ hm).1 rfl) fun hm => (hspelled.mode _ hm).2 rfl
    rw [Line.isPlain, Option.isNone_eq_false_iff]
    exact Option.isSome_iff_ne_none.mpr hdeclares

/-- Reading stops at a block on the line that opens it. The lines that are read when it is closed
may go on. -/
theorem found_of_stopsAtBlock {done rest : List Text}
    (hdone : (start [] []).feedAll 1 done = .ok d) (h : d.StopsAtBlock halt)
    (hrest : ∀ ls, Line.tableLines (ls ++ rest) = Line.tableLines ls) :
    ∃ above raw below, done ++ rest = above ++ raw :: below ∧
      halt.error.line = above.length + 1 ∧ (∃ d, (start [] []).feedAll 1 above = .ok d) ∧
      halt.error.fault.Found above raw below := by
  obtain ⟨b, hblock, hragged, hline⟩ := h
  have hopen := (valid_of_feedAll hdone).openBlock?_of_block hblock
  obtain ⟨front, opening, body, rfl, hspells⟩ := (spelled_of_feedAll hdone).block b hopen
  obtain ⟨hvertical, header, column, first, name, before, after, expected, found, hfault, htable,
    hheader, hcolumn, hlength, hbefore⟩ := hspells.table.exists_of_raggedColumn? hragged
  refine ⟨front, opening, body ++ rest, by simp, hline.trans hspells.line, ?_, ?_⟩
  · rw [feedAll_append] at hdone
    obtain ⟨e, hfront, -⟩ := exists_of_bind_eq_ok hdone
    exact ⟨e, hfront⟩
  · have hkind := hspells.kind
    rw [hvertical] at hkind
    rw [hfault]
    exact .raggedColumn hkind ((hrest body).trans htable) hheader hcolumn hlength hbefore

end Draft

/-- The line of a fault is one of the document, the lines above it can be read, and what the fault
says is found there. -/
theorem found_of_parse_eq_error {t : Text} {e : ReadError} (h : parse t = .error e) :
    1 ≤ e.line ∧ e.line ≤ (Text.lines t).length ∧ ∃ above raw below,
      Text.lines t = above ++ raw :: below ∧ e.line = above.length + 1 ∧
      (∃ d, (Draft.start [] []).feedAll 1 above = .ok d) ∧ e.fault.Found above raw below := by
  suffices hfound : ∃ above raw below, Text.lines t = above ++ raw :: below ∧
      e.line = above.length + 1 ∧ (∃ d, (Draft.start [] []).feedAll 1 above = .ok d) ∧
      e.fault.Found above raw below by
    obtain ⟨above, raw, below, hlines, hline, hrest⟩ := hfound
    refine ⟨by omega, ?_, above, raw, below, hlines, hline, hrest⟩
    rw [hlines, hline, List.length_append, List.length_cons]
    omega
  obtain ⟨halt, rfl, hhalt | ⟨d, hdone, hstops⟩⟩ := Draft.exists_of_parse_eq_error h
  · obtain ⟨above, raw, below, d, hlines, habove, hraw⟩ := Draft.exists_of_feedAll_eq_error hhalt
    rw [Nat.add_comm] at hraw
    rcases Draft.found_of_feed habove hraw with ⟨hline, hfound⟩ | ⟨hdeclares, hstops⟩
    · exact ⟨above, raw, below, hlines, hline, ⟨d, habove⟩, hfound⟩
    · rw [hlines]
      exact Draft.found_of_stopsAtBlock habove hstops fun ls =>
        Line.tableLines_append_cons hdeclares ls below
  · have hnone : ∀ ls, Line.tableLines (ls ++ []) = Line.tableLines ls := fun ls => by
      rw [List.append_nil]
    have hend := Draft.found_of_stopsAtBlock hdone hstops hnone
    rwa [List.append_nil] at hend

/-- A vertical block whose second column has a value too few, which shows only at the scenario
below it. -/
theorem found_of_parse_of_raggedColumn :
    let t : Text :=
      "Scenario: S\nGiven <a>\nExamples: Vertical\n| a | 1 | 2 |\n# late\n| b | 1 |\nScenario: T\n"
    ∃ e, parse t = .error e ∧ e.line = 3 ∧ e.fault = .raggedColumn ['a'] ['b'] 2 1 ∧
      ∃ above raw below, Text.lines t = above ++ raw :: below ∧ e.line = above.length + 1 ∧
        e.fault.Found above raw below := by
  intro t
  have hread : parse t = .error _ := rfl
  obtain ⟨-, -, above, raw, below, hlines, hline, -, hfound⟩ := found_of_parse_eq_error hread
  exact ⟨_, hread, rfl, rfl, above, raw, below, hlines, hline, hfound⟩

end FeatureDoc
