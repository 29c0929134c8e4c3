/-
# What the open block holds

A block is opened by a line and filled by the plain lines below it. At any time the block that
is being read is spelled by the lines between the one that opened it and the next line that
declares something.

* `Line.tableLines` : the lines that fill a block;
* `Draft.Spelled` : the invariant, and `Draft.spelled_of_feedAll` : all lines lead to it.
-/
import FeatureDoc.Proofs.Line.Cells
import FeatureDoc.Proofs.Reading.Validity

namespace FeatureDoc

/-! ## The lines of a table -/

namespace Line

/-- Whether a line declares nothing. -/
def isPlain (raw : Text) : Bool := (classify (stripComment raw)).kind.isNone

/-- A line of no kind is plain. -/
theorem isPlain_of_kind_eq_none {raw : Text} (h : (classify (stripComment raw)).kind = none) :
    isPlain raw = true := by
  rw [isPlain, h, Option.isNone_none]

/-- A line of a kind declares something. -/
theorem isPlain_of_kind_eq_some {raw : Text} {kind : Kind}
    (h : (classify (stripComment raw)).kind = some kind) : isPlain raw = false := by
  rw [isPlain, h, Option.isNone_some]

/-- The lines of a table at the beginning of some lines: the plain ones up to the first line that
declares something, without blank lines and comments. -/
def tableLines (ls : List Text) : List Text :=
  (ls.takeWhile isPlain).filter fun raw => stripComment raw ≠ []

/-- A blank line or a comment declares nothing. -/
theorem isPlain_of_stripComment_eq_nil {raw : Text} (h : stripComment raw = []) :
    isPlain raw = true := by
  rw [isPlain, h]
  decide

/-- No line belongs to a table any more after one that declares something. -/
theorem tableLines_append {ls : List Text} (h : ls.all isPlain = false) (more : List Text) :
    tableLines (ls ++ more) = tableLines ls := by
  obtain ⟨raw, hraw, hdeclares⟩ := List.all_eq_false.mp h
  have hstop : (ls.takeWhile isPlain).length ≠ ls.length := by
    intro hlength
    have hall := (List.takeWhile_sublist isPlain).eq_of_length hlength
    rw [← hall] at hraw
    exact hdeclares (List.mem_takeWhile_imp hraw)
  rw [tableLines, tableLines, List.takeWhile_append, if_neg hstop]

/-- Plain lines go on with the lines below them. -/
theorem tableLines_append_of_all {ls : List Text} (h : ls.all isPlain = true)
    (more : List Text) : tableLines (ls ++ more) = tableLines ls ++ tableLines more := by
  have hall : ls.takeWhile isPlain = ls :=
    List.takeWhile_eq_self_iff.mpr (List.all_eq_true.mp h)
  rw [tableLines, tableLines, tableLines, List.takeWhile_append, if_pos (by rw [hall]), hall,
    List.filter_append]

/-- A line that declares something is no line of a table. -/
theorem tableLines_cons_of_declares {raw : Text} (h : isPlain raw = false) (more : List Text) :
    tableLines (raw :: more) = [] := by
  rw [tableLines, List.takeWhile_cons_of_neg (by simp [h]), List.filter_nil]

/-- A line that declares something ends the table above it. -/
theorem tableLines_append_cons {raw : Text} (h : isPlain raw = false) (ls more : List Text) :
    tableLines (ls ++ raw :: more) = tableLines ls := by
  cases hall : ls.all isPlain with
  | false => exact tableLines_append hall _
  | true =>
    rw [tableLines_append_of_all hall, tableLines_cons_of_declares h, List.append_nil]

/-- A blank line or a comment is no line of a table. -/
theorem tableLines_of_blank {raw : Text} (h : stripComment raw = []) : tableLines [raw] = [] := by
  simp [tableLines, isPlain_of_stripComment_eq_nil h, h]

/-- Another plain line is one. -/
theorem tableLines_of_plain {raw : Text} (h : isPlain raw = true) (hne : stripComment raw ≠ []) :
    tableLines [raw] = [raw] := by
  simp [tableLines, h, hne]

end Line

/-! ## Blocks and their lines -/

/-- A table as the lines that it is written in: a horizontal one has a header with the names of
its columns, of which the empty ones do not count, and then rows of cells; in a vertical one each
line has a name and cells. -/
inductive ExampleBlock.SpelledBy : List Text → ExampleBlock → Prop where
  /-- A horizontal block whose header is missing yet. -/
  | headless (line : Nat) : SpelledBy [] (.opened .horizontal line)
  /-- A horizontal block. -/
  | rows (header : Text) (rows : List Text) (line : Nat) : SpelledBy (header :: rows)
      { orientation := .horizontal, line
        names := (Line.splitCells (Line.stripComment header)).filter (· ≠ [])
        values := rows.map Line.splitCells }
  /-- A vertical block. -/
  | columns {table : List Text} (columns : List (Text × List Text)) (line : Nat)
      (h : table.map Line.splitCells = columns.map fun column => column.1 :: column.2) :
      SpelledBy table
        { orientation := .vertical, line, names := columns.map (·.1)
          values := columns.map (·.2) }

namespace ExampleBlock.SpelledBy

/-- A block that has just been opened has no lines yet. -/
theorem opened (orientation : Orientation) (line : Nat) :
    SpelledBy [] (.opened orientation line) := by
  cases orientation with
  | horizontal => exact headless line
  | vertical => exact columns [] line rfl

variable {b : ExampleBlock} {table : List Text} {raw : Text}

/-- The first line of a horizontal block is its header. -/
theorem header (h : SpelledBy [] b) (hb : b.orientation = .horizontal) :
    SpelledBy [raw]
      { b with names := (Line.splitCells (Line.stripComment raw)).filter (· ≠ []) } := by
  cases h with
  | headless line => exact rows raw [] line
  | columns => cases hb

/-- Another line of it is a row. -/
theorem row {first : Text} (h : SpelledBy (first :: table) b) (hb : b.orientation = .horizontal) :
    SpelledBy (first :: table ++ [raw])
      { b with values := b.values ++ [Line.splitCells raw] } := by
  cases h with
  | rows _ _ line =>
    have hrows := rows first (table ++ [raw]) line
    rwa [List.map_append] at hrows
  | columns => cases hb

/-- A line of a vertical block is a column. -/
theorem column (h : SpelledBy table b) (hb : b.orientation = .vertical) {name : Text}
    {cells : List Text} (hcells : Line.splitCells raw = name :: cells) :
    SpelledBy (table ++ [raw])
      { b with names := b.names ++ [name], values := b.values ++ [cells] } := by
  cases h with
  | headless => cases hb
  | rows => cases hb
  | columns before line hbefore =>
    have hcolumns : (table ++ [raw]).map Line.splitCells =
        (before ++ [(name, cells)]).map fun column => column.1 :: column.2 := by
      simp [hbefore, hcells]
    have hall := columns (before ++ [(name, cells)]) line hcolumns
    rwa [List.map_append, List.map_append] at hall

end ExampleBlock.SpelledBy

namespace Draft

/-- What the next plain line of a block means below some lines of its table. -/
def tableMode : Orientation → List Text → Mode
  | .horizontal, [] => .header
  | .horizontal, _ :: _ => .row
  | .vertical, _ => .column

/-- What the line declares that opens a block. -/
def openingKind : Orientation → Line.Kind
  | .horizontal => .examples
  | .vertical => .verticalExamples

/-- A block that is being read is written in the lines that have been read: one of them opens it,
and the lines below that one spell it. The next plain line goes on with it as long as these are
all plain. -/
structure Spells (mode : Option Mode) (b : ExampleBlock) (front : List Text) (opening : Text)
    (body : List Text) : Prop where
  line : b.line = front.length + 1
  kind : (Line.classify (Line.stripComment opening)).kind = some (openingKind b.orientation)
  table : b.SpelledBy (Line.tableLines body)
  filling : body.all Line.isPlain = true →
    mode = some (tableMode b.orientation (Line.tableLines body))
  filled : body.all Line.isPlain = false → ∀ m ∈ mode, m.fills = false

/-- What holds of a draft after some lines. -/
structure Spelled (done : List Text) (d : Draft) : Prop where
  /-- The block that is being read is written in these lines. -/
  block : ∀ b, d.openBlock? = some b → ∃ front opening body,
    done = front ++ opening :: body ∧ Spells d.mode b front opening body
  /-- No plain line opens a block. -/
  mode : ∀ m ∈ d.mode, m ≠ .examples ∧ m ≠ .verticalExamples
  /-- A line of a block does not describe the feature. -/
  lastMode : ∀ m ∈ d.mode, m.fills = true → d.lastMode ≠ some .feature
  /-- Only below a step there is one that lines may continue. -/
  openStep : d.openStep ≠ none →
    ∃ type, d.mode = some (.step type) ∧ d.lastMode = some (.step type)

/-! ## One block and one more line -/

/-- The next plain line of a block fills it. -/
theorem fills_tableMode (orientation : Orientation) (table : List Text) :
    (tableMode orientation table).fills = true := by
  cases orientation <;> cases table <;> rfl

/-- A line that fills a block opens none. -/
theorem ne_of_fills {m : Mode} (h : m.fills = true) : m ≠ .examples ∧ m ≠ .verticalExamples := by
  constructor <;> rintro rfl <;> cases h

/-- The line below the opening of a block is its first one. -/
theorem fillMode_eq (orientation : Orientation) :
    fillMode orientation = tableMode orientation [] := by
  cases orientation <;> rfl

/-- A header follows the opening of a horizontal block. -/
theorem tableMode_eq_header {orientation : Orientation} {table : List Text}
    (h : tableMode orientation table = .header) : orientation = .horizontal ∧ table = [] := by
  cases orientation <;> cases table <;> first | exact ⟨rfl, rfl⟩ | cases h

/-- A row follows the header of a horizontal block. -/
theorem tableMode_eq_row {orientation : Orientation} {table : List Text}
    (h : tableMode orientation table = .row) :
    orientation = .horizontal ∧ ∃ header rows, table = header :: rows := by
  cases orientation <;> cases table <;> first | exact ⟨rfl, _, _, rfl⟩ | cases h

/-- A column follows in a vertical block. -/
theorem tableMode_eq_column {orientation : Orientation} {table : List Text}
    (h : tableMode orientation table = .column) : orientation = .vertical := by
  cases orientation <;> cases table <;> first | rfl | cases h

namespace Spells

variable {mode mode' : Option Mode} {b b' : ExampleBlock} {front : List Text} {opening : Text}
  {body : List Text} {raw : Text}

/-- A block that is filled has only plain lines. -/
theorem all_of_fills (h : Spells mode b front opening body) {m : Mode} (hm : mode = some m)
    (hfills : m.fills = true) : body.all Line.isPlain = true := by
  by_contra hall
  rw [Bool.not_eq_true] at hall
  exact Bool.noConfusion ((h.filled hall m hm).symm.trans hfills)

/-- In a mode that fills no block some line of the block declares something. -/
theorem all_of_not_fills (h : Spells mode b front opening body)
    (hmode : ∀ m ∈ mode, m.fills = false) : body.all Line.isPlain = false := by
  by_contra hall
  rw [Bool.not_eq_false] at hall
  have hfree := hmode _ (h.filling hall)
  exact Bool.noConfusion (hfree.symm.trans (fills_tableMode _ _))

/-- A line that declares something, or one in a mode that fills no block, leaves a block as it
is. -/
theorem leave (h : Spells mode b front opening body)
    (hraw : Line.isPlain raw = false ∨ ∀ m ∈ mode, m.fills = false)
    (hmode : ∀ m ∈ mode', m.fills = false) : Spells mode' b front opening (body ++ [raw]) := by
  have hall : (body ++ [raw]).all Line.isPlain = false := by
    rw [List.all_append, Bool.and_eq_false_iff]
    rcases hraw with hraw | hother
    · exact Or.inr (by simp [hraw])
    · exact Or.inl (h.all_of_not_fills hother)
  have htable : Line.tableLines (body ++ [raw]) = Line.tableLines body := by
    rcases hraw with hraw | hother
    · exact Line.tableLines_append_cons hraw body []
    · exact Line.tableLines_append (h.all_of_not_fills hother) [raw]
  exact { line := h.line
          kind := h.kind
          table := htable ▸ h.table
          filling := fun hplain => Bool.noConfusion (hall.symm.trans hplain)
          filled := fun _ => hmode }

/-- A blank line or a comment leaves a block as it is, in the same mode. -/
theorem skip (h : Spells mode b front opening body) (hraw : Line.stripComment raw = []) :
    Spells mode b front opening (body ++ [raw]) := by
  have hall : (body ++ [raw]).all Line.isPlain = body.all Line.isPlain := by
    simp [Line.isPlain_of_stripComment_eq_nil hraw]
  have htable : Line.tableLines (body ++ [raw]) = Line.tableLines body := by
    cases hbody : body.all Line.isPlain with
    | false => exact Line.tableLines_append hbody [raw]
    | true =>
      rw [Line.tableLines_append_of_all hbody, Line.tableLines_of_blank hraw, List.append_nil]
  exact { line := h.line
          kind := h.kind
          table := htable ▸ h.table
          filling := by
            rw [hall, htable]
            exact h.filling
          filled := by
            rw [hall]
            exact h.filled }

/-- A plain line goes on with a block that is filled. -/
theorem fill (h : Spells mode b front opening body) {m : Mode} (hm : mode = some m)
    (hfills : m.fills = true) (hraw : Line.isPlain raw = true)
    (hclean : Line.stripComment raw ≠ []) (hline : b'.line = b.line)
    (horientation : b'.orientation = b.orientation)
    (htable : ∀ table, tableMode b.orientation table = m → b.SpelledBy table →
      b'.SpelledBy (table ++ [raw]))
    (hmode : ∀ table, tableMode b.orientation table = m →
      mode' = some (tableMode b.orientation (table ++ [raw]))) :
    Spells mode' b' front opening (body ++ [raw]) := by
  have hbody := h.all_of_fills hm hfills
  have hall : (body ++ [raw]).all Line.isPlain = true := by
    simp [List.all_append, hbody, hraw]
  have hlines : Line.tableLines (body ++ [raw]) = Line.tableLines body ++ [raw] := by
    rw [Line.tableLines_append_of_all hbody, Line.tableLines_of_plain hraw hclean]
  have hsame : tableMode b.orientation (Line.tableLines body) = m :=
    Option.some.inj ((h.filling hbody).symm.trans hm)
  exact { line := hline.trans h.line
          kind := by rw [horientation, h.kind]
          table := hlines ▸ htable _ hsame h.table
          filling := fun _ => by rw [hmode _ hsame, horientation, hlines]
          filled := fun hplain => Bool.noConfusion (hall.symm.trans hplain) }

/-- The line that opens a block spells nothing yet. -/
theorem opened {orientation : Orientation} {raw : Text}
    (hkind : (Line.classify (Line.stripComment raw)).kind = some (openingKind orientation))
    (front : List Text) : Spells (some (tableMode orientation []))
      (.opened orientation (front.length + 1)) front raw [] where
  line := rfl
  kind := hkind
  table := .opened orientation _
  filling := fun _ => rfl
  filled := fun h => nomatch h

end Spells

/-! ## The draft and one more line -/

/-- Before the first line there is no block. -/
theorem spelled_start (path relativePath : Path) : Spelled [] (start path relativePath) where
  block := nofun
  mode := nofun
  lastMode := nofun
  openStep := fun h => absurd rfl h

namespace Spelled

variable {done : List Text} {d d' : Draft} {raw : Text}

/-- A line leaves the block as it is if it declares something, or stands in a mode that fills no
block. -/
theorem leave (h : Spelled done d) (hblock : d'.openBlock? = d.openBlock?)
    (hraw : Line.isPlain raw = false ∨ ∀ m ∈ d.mode, m.fills = false)
    (hmode : ∀ m ∈ d'.mode, m.fills = false ∧ m ≠ .examples ∧ m ≠ .verticalExamples)
    (hstep : d'.openStep ≠ none →
      ∃ type, d'.mode = some (.step type) ∧ d'.lastMode = some (.step type)) :
    Spelled (done ++ [raw]) d' where
  block := by
    intro b hb
    obtain ⟨front, opening, body, rfl, hspells⟩ := h.block b (hblock ▸ hb)
    exact ⟨front, opening, body ++ [raw], by simp, hspells.leave hraw fun m hm => (hmode m hm).1⟩
  mode := fun m hm => (hmode m hm).2
  lastMode := fun m hm hfills => Bool.noConfusion ((hmode m hm).1.symm.trans hfills)
  openStep := hstep

/-- Where no block is open there is nothing to spell. -/
theorem of_none (hblock : d'.openBlock? = none)
    (hmode : ∀ m ∈ d'.mode, m.fills = false ∧ m ≠ .examples ∧ m ≠ .verticalExamples)
    (hstep : d'.openStep = none) : Spelled done d' where
  block := fun _ hb => nomatch hblock.symm.trans hb
  mode := fun m hm => (hmode m hm).2
  lastMode := fun m hm hfills => Bool.noConfusion ((hmode m hm).1.symm.trans hfills)
  openStep := absurd hstep

/-- A line that opens a block stands above all lines of the block. -/
theorem opened {orientation : Orientation}
    (hkind : (Line.classify (Line.stripComment raw)).kind = some (openingKind orientation))
    (hblock : d'.openBlock? = some (.opened orientation (done.length + 1)))
    (hmode : d'.mode = some (tableMode orientation [])) (hlast : d'.lastMode ≠ some .feature)
    (hstep : d'.openStep = none) : Spelled (done ++ [raw]) d' where
  block := by
    intro b hb
    obtain rfl := Option.some.inj (hblock.symm.trans hb)
    exact ⟨done, raw, [], rfl, hmode ▸ Spells.opened hkind done⟩
  mode := by
    intro m hm
    obtain rfl := Option.some.inj (hmode.symm.trans hm)
    exact ne_of_fills (fills_tableMode orientation [])
  lastMode := fun _ _ _ => hlast
  openStep := absurd hstep

/-- The text of a plain line has the cells of the line without its comment. -/
theorem splitCells_text (hraw : (Line.classify (Line.stripComment raw)).kind = none) :
    Line.splitCells (Line.classify (Line.stripComment raw)).text =
      Line.splitCells (Line.stripComment raw) := by
  unfold Line.classify at hraw ⊢
  cases hfound : Line.leads.findSome? (Line.classifyBy? (Line.stripComment raw)) with
  | none => exact Line.splitCells_trim _
  | some c =>
    obtain ⟨lead, -, hc⟩ := List.exists_of_findSome?_eq_some hfound
    obtain ⟨rest, -, rfl⟩ := Option.map_eq_some_iff.mp hc
    rw [hfound] at hraw
    cases hraw

/-- A plain line in a mode that fills a block goes on with it. -/
theorem fill (h : Spelled done d) (hstep : d.openStep = none) {m m' : Mode}
    (hm : d.mode = some m) (hfills : m.fills = true) (hfills' : m'.fills = true)
    (hraw : Line.isPlain raw = true) (hclean : Line.stripComment raw ≠ [])
    {change : ExampleBlock → ExampleBlock} (hline : ∀ b, (change b).line = b.line)
    (horientation : ∀ b, (change b).orientation = b.orientation)
    (htable : ∀ b table, tableMode b.orientation table = m → b.SpelledBy table →
      (change b).SpelledBy (table ++ [raw]))
    (hmode : ∀ orientation table, tableMode orientation table = m →
      tableMode orientation (table ++ [raw]) = m') :
    Spelled (done ++ [raw]) { (d.enter m).updateBlock change with mode := some m' } where
  block := by
    intro b' hb'
    have hblock : ((d.enter m).updateBlock change).openBlock? = d.openBlock?.map change :=
      openBlock?_updateBlock (d.enter m) change
    obtain ⟨b, hb, rfl⟩ := Option.map_eq_some_iff.mp (hblock.symm.trans hb')
    obtain ⟨front, opening, body, rfl, hspells⟩ := h.block b hb
    refine ⟨front, opening, body ++ [raw], by simp, ?_⟩
    refine hspells.fill hm hfills hraw hclean (hline b) (horientation b) (htable b) ?_
    exact fun table hsame => congrArg some (hmode _ _ hsame).symm
  mode := by
    rintro _ ⟨⟩
    exact ne_of_fills hfills'
  lastMode := by
    intro _ _ _
    refine (updateBlock_lastMode (d.enter m) change).trans_ne ?_
    rintro ⟨⟩
    cases hfills
  openStep := absurd ((updateBlock_openStep (d.enter m) change).trans hstep)

/-- The header of a horizontal block is its first line. -/
theorem header (h : Spelled done d) (hstep : d.openStep = none) (hmode : d.mode = some .header)
    (hkind : (Line.classify (Line.stripComment raw)).kind = none)
    (hclean : Line.stripComment raw ≠ []) : Spelled (done ++ [raw])
      ((d.enter .header).addHeader (Line.classify (Line.stripComment raw)).text) := by
  refine h.fill hstep hmode rfl rfl (Line.isPlain_of_kind_eq_none hkind) hclean (fun _ => rfl)
    (fun _ => rfl) ?_ ?_
  · intro b table hsame hspelled
    obtain ⟨hhorizontal, rfl⟩ := tableMode_eq_header hsame
    rw [splitCells_text hkind]
    exact hspelled.header hhorizontal
  · intro orientation table hsame
    obtain ⟨rfl, rfl⟩ := tableMode_eq_header hsame
    rfl

/-- A row of a horizontal block stands below its header. -/
theorem row (h : Spelled done d) (hstep : d.openStep = none) (hmode : d.mode = some .row)
    (hraw : Line.isPlain raw = true) (hclean : Line.stripComment raw ≠ []) {line : Nat}
    (hadded : (d.enter .row).addRow line (Text.trim raw) = .ok d') :
    Spelled (done ++ [raw]) d' := by
  obtain ⟨-, rfl⟩ := addRow_eq_ok hadded
  rw [← updateBlock_enter]
  refine h.fill hstep hmode rfl rfl hraw hclean (fun _ => rfl) (fun _ => rfl) ?_ ?_
  · intro b table hsame hspelled
    obtain ⟨hhorizontal, header, rows, rfl⟩ := tableMode_eq_row hsame
    rw [Line.splitCells_trim]
    exact hspelled.row hhorizontal
  · intro orientation table hsame
    obtain ⟨rfl, header, rows, rfl⟩ := tableMode_eq_row hsame
    rfl

/-- A column of a vertical block stands below the others. -/
theorem column (h : Spelled done d) (hstep : d.openStep = none) (hmode : d.mode = some .column)
    (hraw : Line.isPlain raw = true) (hclean : Line.stripComment raw ≠ []) {line : Nat}
    (hadded : (d.enter .column).addColumn line (Text.trim raw) = .ok d') :
    Spelled (done ++ [raw]) d' := by
  obtain ⟨name, cells, hcells, -, rfl⟩ := addColumn_eq_ok hadded
  rw [Line.splitCells_trim] at hcells
  rw [← updateBlock_enter]
  refine h.fill hstep hmode rfl rfl hraw hclean (fun _ => rfl) (fun _ => rfl) ?_ ?_
  · exact fun b table hsame hspelled => hspelled.column (tableMode_eq_column hsame) hcells
  · intro orientation table hsame
    obtain rfl := tableMode_eq_column hsame
    rfl

/-- A line that opens a block leaves behind the one that it opens. -/
theorem declareExamples (orientation : Orientation) {mode : Mode}
    (hkind : (Line.classify (Line.stripComment raw)).kind = some (openingKind orientation))
    (hmode : mode ≠ .feature) (hstep : d.openStep = none)
    (h : (d.enter mode).declareExamples (done.length + 1) orientation = .ok d') :
    Spelled (done ++ [raw]) d' := by
  have hlast : some mode ≠ some .feature := fun heq => hmode (Option.some.inj heq)
  have hopen := openBlock?_of_declareExamples h
  obtain ⟨own, shared, _, _, journal, rfl⟩ := exists_of_declareExamples h
  exact opened hkind hopen (congrArg some (fillMode_eq orientation)) hlast hstep

/-- Every line that is taken up leaves a block that the lines spell. -/
theorem taken (h : Spelled done d) (hstep : d.openStep = none)
    (hclean : Line.stripComment raw = [] → d.lastMode = some .feature)
    (htaken : Taken d (done.length + 1) raw (Line.stripComment raw)
      (Line.classify (Line.stripComment raw)) d') : Spelled (done ++ [raw]) d' := by
  have hmodeFree : ∀ {m}, d.mode = some m → m.fills = false → ∀ m ∈ d.mode, m.fills = false := by
    rintro m hm hfree m' hm'
    rwa [← Option.some.inj (hm.symm.trans hm')]
  -- a line of a kind, or in a mode, that fills no block
  have hleave : ∀ {kind m}, m.fills = false →
      ((Line.classify (Line.stripComment raw)).kind = some kind ∨
        (Line.classify (Line.stripComment raw)).kind = none ∧ d.mode = some m) →
      Line.isPlain raw = false ∨ ∀ m ∈ d.mode, m.fills = false := by
    rintro kind m hfree (hkind | ⟨-, hm⟩)
    · exact Or.inl (Line.isPlain_of_kind_eq_some hkind)
    · exact Or.inr (hmodeFree hm hfree)
  have hfull : ∀ {m}, d.mode = some m → m.fills = true → Line.stripComment raw ≠ [] :=
    fun hm hfills hblank => h.lastMode _ hm hfills (hclean hblank)
  cases htaken with
  | named _ _ hkind =>
    exact h.leave rfl (hleave rfl hkind) (by rintro _ ⟨⟩; decide) (absurd hstep)
  | prose _ hkind =>
    exact h.leave rfl (hleave rfl hkind) (by rintro _ ⟨⟩; decide) (absurd hstep)
  | scenario closed _ hclosed _ =>
    obtain ⟨journal, rfl⟩ := closeBlocks_eq_ok hclosed
    obtain ⟨journal', hopened⟩ := openScenario_eq _ _
    rw [hopened]
    exact of_none rfl (by rintro _ ⟨⟩; decide) hstep
  | scenarioProse hkind hmode =>
    exact h.leave rfl (Or.inr (hmodeFree hmode rfl)) (by rintro _ ⟨⟩; decide) (absurd hstep)
  | background hkind =>
    obtain ⟨journal, hdeclared⟩ := declareBackground_eq (d.enter .background) (done.length + 1)
    rw [hdeclared]
    exact h.leave rfl (Or.inl (Line.isPlain_of_kind_eq_some hkind)) (by rintro _ ⟨⟩; decide)
      (absurd hstep)
  | backgroundProse hkind hmode =>
    exact h.leave rfl (Or.inr (hmodeFree hmode rfl)) (by rintro _ ⟨⟩; decide) (absurd hstep)
  | examples _ hkind hopened =>
    have hkind := hkind.resolve_right fun hboth => (h.mode _ hboth.2).1 rfl
    exact declareExamples .horizontal hkind (by decide) hstep hopened
  | verticalExamples _ hkind hopened =>
    have hkind := hkind.resolve_right fun hboth => (h.mode _ hboth.2).2 rfl
    exact declareExamples .vertical hkind (by decide) hstep hopened
  | header hkind hmode => exact h.header hstep hmode hkind (hfull hmode rfl)
  | row _ hkind hmode hadded =>
    exact h.row hstep hmode (Line.isPlain_of_kind_eq_none hkind) (hfull hmode rfl) hadded
  | column _ hkind hmode hadded =>
    exact h.column hstep hmode (Line.isPlain_of_kind_eq_none hkind) (hfull hmode rfl) hadded
  | step type _ hkind hadded =>
    obtain ⟨-, step, steps, -, -, rfl⟩ := declareStep_eq_ok hadded
    have hraw : Line.isPlain raw = false ∨ ∀ m ∈ d.mode, m.fills = false := by
      rcases hkind with hkind | ⟨-, hmode⟩
      · exact Or.inl (Line.isPlain_of_kind_eq_some hkind)
      · exact Or.inr (hmodeFree hmode rfl)
    refine h.leave rfl hraw ?_ fun _ => ⟨type, rfl, rfl⟩
    rintro _ ⟨⟩
    exact ⟨rfl, nofun, nofun⟩
  | tag hkind =>
    exact h.leave rfl (hleave rfl hkind) (by rintro _ ⟨⟩; decide) (absurd hstep)
  | nothing _ hmode =>
    exact h.leave rfl (Or.inr (by simp [hmode])) (by simp [hmode]) (absurd hstep)

/-- A line that is captured declares nothing for a block. -/
theorem capture (h : Spelled done d) (hcaptured : d.captures raw = true) :
    Spelled (done ++ [raw]) (d.capture raw) := by
  cases hopen : d.openStep with
  | none => simp [captures, hopen] at hcaptured
  | some s =>
    obtain ⟨type, hmode, hlast⟩ := h.openStep (by simp [hopen])
    have hfree : ∀ m ∈ d.mode, m.fills = false ∧ m ≠ .examples ∧ m ≠ .verticalExamples := by
      rw [hmode]
      rintro _ ⟨⟩
      exact ⟨rfl, nofun, nofun⟩
    have hcapture : d.capture raw =
        { d.updateSteps (changeLast (Step.addLine · raw)) s.owner with capturing := true } := by
      rw [Draft.capture, hopen]
    have hnone : ∀ m ∈ d.mode, m.fills = false := fun m hm => (hfree m hm).1
    rw [hcapture]
    exact h.leave rfl (Or.inr hnone) hfree fun _ => ⟨type, hmode, hlast⟩

/-- A line that is skipped leaves the block as it is. -/
theorem skip (h : Spelled done d) (hraw : Line.stripComment raw = []) :
    Spelled (done ++ [raw]) d.release where
  block := by
    intro b hb
    obtain ⟨front, opening, body, rfl, hspells⟩ := h.block b hb
    exact ⟨front, opening, body ++ [raw], by simp, hspells.skip hraw⟩
  mode := h.mode
  lastMode := h.lastMode
  openStep := fun hne => absurd rfl hne

/-- Every line leaves a block that the lines spell. -/
theorem feed (h : Spelled done d) (hfeed : d.feed (done.length + 1) raw = .ok d') :
    Spelled (done ++ [raw]) d' := by
  cases hcaptured : d.captures raw with
  | true =>
    rw [eq_capture_of_feed hcaptured hfeed]
    exact h.capture hcaptured
  | false =>
    rcases feed_cases_of_free hcaptured hfeed with ⟨hblank, -, rfl⟩ | ⟨hlast, e, rfl, htaken⟩
    · exact h.skip hblank
    · have hbefore : Spelled done (d.beforeTaking (done.length + 1) raw) :=
        { h with openStep := fun hne => absurd rfl hne }
      exact { hbefore.taken rfl hlast htaken with }

end Spelled

/-- After any lines that cause no fault, they spell the block that is being read. -/
theorem spelled_of_feedAll {path relativePath : Path} {ls : List Text} {d : Draft}
    (h : (start path relativePath).feedAll 1 ls = .ok d) : Spelled ls d :=
  feedAll_induction_lines (fun hspelled hfeed => hspelled.feed hfeed)
    (spelled_start path relativePath) h

end Draft

end FeatureDoc
