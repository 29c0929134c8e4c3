/-
# The values of a covered scenario

The columns of a covered scenario are looked for in its blocks and in those of its feature, and the
rows that it runs with bind the columns that it keeps. The two differ in one kind of block: the
lines of a vertical block can hold names and nothing else, and such a block has columns but no rows.

* `ExampleBlock.NamesOnly` : the blocks that have columns but no rows;
* `Feature.suppliers` : the blocks whose rows give a scenario the values of a name;
* `Feature.Valueless` : the names for which there are such blocks, but no values;
* `Feature.mem_names_iff` : a row that a scenario runs with binds a name exactly if one of its
  suppliers has a row;
* `Feature.binds_of_validate` : in a covered scenario every row binds all parameters that are not
  valueless, and arguments are found there.
-/
import FeatureDoc.Proofs.Example.Groups
import FeatureDoc.Feature.Coverage
import FeatureDoc.Run.Context
import FeatureDoc.Proofs.Lists

namespace FeatureDoc

/-! ## Blocks without rows -/

namespace ExampleBlock

/-- Whether the lines of a block hold only names. This can be in a vertical block, where the first
cell of each line is a name. -/
def NamesOnly (b : ExampleBlock) : Prop :=
  b.orientation = .vertical ∧ ∀ column ∈ b.values, column = []

instance (b : ExampleBlock) : Decidable b.NamesOnly :=
  inferInstanceAs (Decidable (_ ∧ _))

/-- A rectangular block with lines has a row unless its lines hold only names. -/
theorem Rectangular.rowCount_pos_iff {b : ExampleBlock} (h : b.Rectangular)
    (hlines : b.isEmpty = false) : 0 < b.rowCount ↔ ¬b.NamesOnly := by
  obtain ⟨first, rest, hvalues⟩ : ∃ first rest, b.values = first :: rest :=
    List.exists_cons_of_ne_nil (by simpa [isEmpty] using hlines)
  cases horientation : b.orientation with
  | horizontal => simp [rowCount, NamesOnly, horientation, hvalues]
  | vertical =>
    have hcount : b.rowCount = first.length := by rw [rowCount, horientation, hvalues]
    -- all columns have as many cells as the first one
    have hwidth := (h.columns horientation).2
    have hfirst : (∀ column ∈ b.values, column = []) ↔ first = [] := by
      constructor
      · intro hnone
        exact hnone first (hvalues ▸ List.mem_cons_self)
      · rintro rfl column hcolumn
        exact List.eq_nil_of_length_eq_zero ((hwidth column hcolumn).trans hcount)
    rw [NamesOnly, and_iff_right horientation, hfirst, hcount, List.length_pos_iff]

end ExampleBlock

/-! ## The names that a row binds -/

namespace Group

/-- A group is even if each of its rows has a value for every name. -/
def Even (g : Group) : Prop := ∀ row ∈ g.rows, row.length = g.names.length

/-- The bindings of a row of an even group are those of the names of the group. -/
theorem Even.names_bindingsAt {g : Group} (h : g.Even) {i : Nat} (hi : i < g.rows.length) :
    (g.bindingsAt i).names = g.names := by
  have hrow : g.bindingsAt i = g.names.zip g.rows[i] := by
    simp [bindingsAt, bindings, List.getElem?_eq_getElem hi]
  rw [hrow, Row.names, List.map_fst_zip]
  exact (h g.rows[i] (List.getElem_mem hi)).ge

/-- Whatever rows are picked from even groups, the names of all groups are bound, in their
order. -/
theorem names_pickRows {groups : List Group} (heven : ∀ g ∈ groups, g.Even) {pick : List Nat}
    (hpick : List.Forall₂ (fun i g => i < g.rows.length) pick groups) :
    (pickRows groups pick).names = groups.flatMap names := by
  induction hpick with
  | nil => rfl
  | @cons i g pick rest hi _ ih =>
    have hrest := ih fun g' hg' => heven g' (List.mem_cons_of_mem g hg')
    have hfirst := (heven g List.mem_cons_self).names_bindingsAt hi
    rw [List.flatMap_cons, ← hrest, ← hfirst]
    exact List.map_append

/-- Every instance of even groups binds the names of all groups. -/
theorem names_of_mem_instances {groups : List Group} (heven : ∀ g ∈ groups, g.Even) {row : Row}
    (hrow : row ∈ instances groups) : row.names = groups.flatMap names := by
  rw [instances_eq] at hrow
  obtain ⟨pick, hpick, rfl⟩ := List.mem_map.mp hrow
  exact names_pickRows heven (mem_picks.mp hpick)

namespace Renders

variable {o : Conversion} {scope : Scope} {b : ExampleBlock} {columns : List Nat} {g : Group}

/-- A group that holds the cells of some columns has a value for each of them in every row. -/
theorem even (h : g.Renders o scope b columns) : g.Even := by
  intro row hrow
  obtain ⟨i, hi⟩ := List.mem_iff_getElem?.mp hrow
  exact (h.values i row hi).length_eq.symm.trans h.names.length_eq

/-- The names of a group are those of its columns. -/
theorem mem_names_iff (h : g.Renders o scope b columns) {name : Text} :
    name ∈ g.names ↔ ∃ j ∈ columns, b.names[j]? = some name := by
  constructor
  · exact exists_left_of_forall₂ h.names
  · rintro ⟨j, hj, hname⟩
    obtain ⟨name', hmem, hname'⟩ := exists_right_of_forall₂ h.names hj
    obtain rfl := Option.some.inj (hname'.symm.trans hname)
    exact hmem

end Renders

end Group

/-! ## The blocks that give values -/

/-- A column of a block is kept exactly if its name is. -/
theorem Scenario.exists_mem_keptColumns_iff {s : Scenario} {scope : Scope} {b : ExampleBlock}
    {name : Text} : (∃ j ∈ s.keptColumns scope b, b.names[j]? = some name) ↔
      name ∈ b.names ∧ s.keeps scope name = true := by
  constructor
  · rintro ⟨j, hj, hname⟩
    have hkept := (List.mem_filter.mp hj).2
    rw [hname] at hkept
    exact ⟨List.mem_of_getElem? hname, hkept⟩
  · rintro ⟨hmem, hkept⟩
    obtain ⟨j, hj, rfl⟩ := List.getElem_of_mem hmem
    have hname : b.names[j]? = some b.names[j] := List.getElem?_eq_getElem hj
    refine ⟨j, List.mem_filter.mpr ⟨List.mem_range.mpr hj, ?_⟩, hname⟩
    rw [hname]
    exact hkept

namespace Feature

variable {f : Feature} {s : Scenario} {o : Conversion} {name : Text}

/-- The blocks whose rows give a scenario the values of a name: its own blocks with a column of this
name or, if there are none, those of the feature. -/
def suppliers (f : Feature) (s : Scenario) (name : Text) : List ExampleBlock :=
  (if name ∈ s.columns then s.examples else f.examples).filter (name ∈ ·.names)

/-- Whether a scenario has columns for the values of a name but no values: there are suppliers, and
the lines of all of them hold only names. -/
def Valueless (f : Feature) (s : Scenario) (name : Text) : Prop :=
  f.suppliers s name ≠ [] ∧ ∀ b ∈ f.suppliers s name, b.NamesOnly

instance (f : Feature) (s : Scenario) (name : Text) : Decidable (f.Valueless s name) :=
  inferInstanceAs (Decidable (_ ∧ _))

/-- The blocks that hold for a scenario are its own and those of the feature. -/
theorem mem_scopedBlocks_iff {scope : Scope} {b : ExampleBlock} :
    (scope, b) ∈ f.scopedBlocks s ↔
      (scope = .scenario ∧ b ∈ s.examples) ∨ (scope = .feature ∧ b ∈ f.examples) := by
  simp only [scopedBlocks, List.mem_append, List.mem_map, Prod.mk.injEq]
  constructor
  · rintro (⟨b, hb, rfl, rfl⟩ | ⟨b, hb, rfl, rfl⟩)
    · exact Or.inl ⟨rfl, hb⟩
    · exact Or.inr ⟨rfl, hb⟩
  · rintro (⟨rfl, hb⟩ | ⟨rfl, hb⟩)
    · exact Or.inl ⟨b, hb, rfl, rfl⟩
    · exact Or.inr ⟨b, hb, rfl, rfl⟩

/-- The blocks that supply a name are those that hold for the scenario and have a column of this
name that is kept. -/
theorem mem_suppliers_iff {b : ExampleBlock} : b ∈ f.suppliers s name ↔
    ∃ scope, (scope, b) ∈ f.scopedBlocks s ∧ name ∈ b.names ∧ s.keeps scope name = true := by
  have hown : b ∈ s.examples → name ∈ b.names → name ∈ s.columns := fun hb hname =>
    List.mem_flatMap.mpr ⟨b, hb, hname⟩
  rw [suppliers, List.mem_filter, decide_eq_true_iff]
  constructor
  · rintro ⟨hb, hname⟩
    split at hb
    · exact ⟨.scenario, mem_scopedBlocks_iff.mpr (Or.inl ⟨rfl, hb⟩), hname, rfl⟩
    · rename_i hfree
      exact ⟨.feature, mem_scopedBlocks_iff.mpr (Or.inr ⟨rfl, hb⟩), hname, decide_eq_true hfree⟩
  · rintro ⟨scope, hblock, hname, hkept⟩
    refine ⟨?_, hname⟩
    rcases mem_scopedBlocks_iff.mp hblock with ⟨rfl, hb⟩ | ⟨rfl, hb⟩
    · rwa [if_pos (hown hb hname)]
    · rwa [if_neg (of_decide_eq_true hkept)]

/-- In a covered scenario with columns, every parameter has a supplier. -/
theorem suppliers_ne_nil (hcovered : f.validate s = .ok ()) (hexamples : f.exampleParams s ≠ [])
    (hname : name ∈ f.stepParams s) : f.suppliers s name ≠ [] := by
  have hcolumn : name ∈ f.exampleParams s := by
    have hcover : f.isCovered s = true := by
      by_contra hnot
      rw [validate, if_neg hnot] at hcovered
      cases hcovered
    simp only [isCovered, Bool.or_eq_true, decide_eq_true_eq, List.all_eq_true] at hcover
    rcases hcover with (hnone | hnone) | hall
    · exact absurd hname (hnone ▸ List.not_mem_nil)
    · exact absurd hnone hexamples
    · exact hall name hname
  rw [exampleParams, Text.mem_sortedSet, blocksOf] at hcolumn
  obtain ⟨b, hb, hcolumn⟩ := List.mem_flatMap.mp hcolumn
  by_cases hown : name ∈ s.columns
  · obtain ⟨b', hb', hname'⟩ := List.mem_flatMap.mp hown
    refine List.ne_nil_of_mem (a := b') ?_
    rw [suppliers, if_pos hown]
    exact List.mem_filter.mpr ⟨hb', decide_eq_true hname'⟩
  · refine List.ne_nil_of_mem (a := b) ?_
    rw [suppliers, if_neg hown]
    refine List.mem_filter.mpr ⟨?_, decide_eq_true hcolumn⟩
    -- a block of the scenario itself would have the column
    exact (List.mem_append.mp hb).resolve_left fun hb =>
      hown (List.mem_flatMap.mpr ⟨b, hb, hcolumn⟩)

/-- The names of the groups are the names whose suppliers have rows. -/
theorem mem_names_of_groups_iff (hown : ∀ b ∈ s.examples, b.Rectangular)
    (hfeature : ∀ b ∈ f.examples, b.Rectangular) {groups : List Group}
    (h : f.groups s o = .ok groups) :
    name ∈ groups.flatMap Group.names ↔ ∃ b ∈ f.suppliers s name, 0 < b.rowCount := by
  have hgroups := renders_of_groups hown hfeature h
  have hnames : ∀ {block : Scope × ExampleBlock} {g : Group},
      g.Renders o block.1 block.2 (s.keptColumns block.1 block.2) →
      (name ∈ g.names ↔ name ∈ block.2.names ∧ s.keeps block.1 name = true) := fun hg =>
    hg.mem_names_iff.trans Scenario.exists_mem_keptColumns_iff
  rw [List.mem_flatMap]
  constructor
  · rintro ⟨g, hg, hname⟩
    obtain ⟨⟨scope, b⟩, hblock, hrenders⟩ := exists_left_of_forall₂ hgroups hg
    obtain ⟨hblock, hgroup⟩ := List.mem_filter.mp hblock
    exact ⟨b, mem_suppliers_iff.mpr ⟨scope, hblock, (hnames hrenders).mp hname⟩,
      (of_decide_eq_true hgroup).1⟩
  · rintro ⟨b, hb, hrows⟩
    obtain ⟨scope, hblock, hkept⟩ := mem_suppliers_iff.mp hb
    obtain ⟨j, hj, -⟩ := Scenario.exists_mem_keptColumns_iff.mpr hkept
    have hblock : (scope, b) ∈ f.contributing s :=
      List.mem_filter.mpr ⟨hblock, decide_eq_true ⟨hrows, fun _ => List.ne_nil_of_mem hj⟩⟩
    obtain ⟨g, hg, hrenders⟩ := exists_right_of_forall₂ hgroups hblock
    exact ⟨g, hg, (hnames hrenders).mpr hkept⟩

/-- A row that a scenario runs with binds a name exactly if one of the suppliers of the name has a
row. -/
theorem mem_names_iff (hown : ∀ b ∈ s.examples, b.Rectangular)
    (hfeature : ∀ b ∈ f.examples, b.Rectangular) {groups : List Group}
    (h : f.groups s o = .ok groups) {row : Row} (hrow : row ∈ instances groups) :
    name ∈ row.names ↔ ∃ b ∈ f.suppliers s name, 0 < b.rowCount := by
  have heven : ∀ g ∈ groups, g.Even := by
    intro g hg
    obtain ⟨block, -, hrenders⟩ :=
      exists_left_of_forall₂ (renders_of_groups hown hfeature h) hg
    exact hrenders.even
  rw [Group.names_of_mem_instances heven hrow, mem_names_of_groups_iff hown hfeature h]

end Feature

/-! ## Arguments from the row -/

/-- A name that the row of a context binds is found there, whatever else provides it. -/
theorem Formal.findOrDefault_of_row (fm : Formal) (step : Step) {c : Context} {row : Row}
    (hrow : c.row = some row) {name : Text} {v : Value} (hbound : row.get? name = some v) :
    fm.findOrDefault step c.source name = .ok (v, true) := by
  have hfound : c.source.row.bind (Row.get? · name) = some v := by
    rw [Context.source, hrow, Option.bind_some, hbound]
  rw [findOrDefault, Source.find, hfound]

namespace Step

variable {step : Step} {name : Text}

/-- A step needs values for its general parameters. -/
theorem mem_params_of_mem_generals (h : name ∈ Param.generals step.text) : name ∈ step.params :=
  Text.mem_sortedSet.mpr (List.mem_append_left _ h)

/-- A step needs values for the targets of its aliases. -/
theorem mem_params_of_alias {a : Param.Alias} (h : step.aliases.find? name = some a) :
    a.target ∈ step.params :=
  Text.mem_sortedSet.mpr (List.mem_append_right _
    (List.mem_map.mpr ⟨(name, a), Dictionary.mem_of_find?_eq_some h, rfl⟩))

end Step

namespace Feature

variable {f : Feature} {s : Scenario} {o : Conversion}

/-- What a step of a scenario needs, the scenario needs. -/
theorem mem_stepParams {step : Step} (hstep : step ∈ f.stepsOf s) {name : Text}
    (hname : name ∈ step.params) : name ∈ f.stepParams s :=
  Text.mem_sortedSet.mpr (List.mem_flatMap.mpr ⟨step, hstep, hname⟩)

/-- In a document that is read, a supplier has a row unless its lines hold only names. -/
theorem rowCount_pos_iff_of_mem_suppliers {t : Text} (h : parse t = .ok f) (hs : s ∈ f.scenarios)
    {name : Text} {b : ExampleBlock} (hb : b ∈ f.suppliers s name) :
    0 < b.rowCount ↔ ¬b.NamesOnly := by
  obtain ⟨scope, hblock, -⟩ := mem_suppliers_iff.mp hb
  have hmem : b ∈ f.allExamples := by
    rcases mem_scopedBlocks_iff.mp hblock with ⟨-, hb⟩ | ⟨-, hb⟩
    · exact mem_allExamples.mpr (Or.inl ⟨s, hs, hb⟩)
    · exact mem_allExamples.mpr (Or.inr hb)
  exact (rectangular_of_parse h b hmem).rowCount_pos_iff (isEmpty_of_parse h b hmem)

/-- In a document that is read, a row has a value for a name unless the lines of all suppliers of
the name hold only names. -/
theorem exists_get?_iff_of_parse {t : Text} (h : parse t = .ok f) (hs : s ∈ f.scenarios)
    {groups : List Group} (hgroups : f.groups s o = .ok groups) {row : Row}
    (hrow : row ∈ instances groups) {name : Text} :
    (∃ v, row.get? name = some v) ↔ ∃ b ∈ f.suppliers s name, ¬b.NamesOnly := by
  have hown : ∀ b ∈ s.examples, b.Rectangular := fun b hb =>
    rectangular_of_parse h b (mem_allExamples.mpr (Or.inl ⟨s, hs, hb⟩))
  have hfeature : ∀ b ∈ f.examples, b.Rectangular := fun b hb =>
    rectangular_of_parse h b (mem_allExamples.mpr (Or.inr hb))
  rw [Row.exists_get?_eq_some_iff, mem_names_iff hown hfeature hgroups hrow]
  exact exists_congr fun b => and_congr_right (rowCount_pos_iff_of_mem_suppliers h hs)

/-- In a document that is read, let a scenario be covered and have columns, and take any row that it
runs with. The row has a value for every parameter of its steps, except for those whose columns have
no values at all. With this exception, the value in the row is found for an argument that a step
names as a general parameter, and for one that it makes an alias. -/
theorem binds_of_validate {t : Text} (h : parse t = .ok f) (hs : s ∈ f.scenarios)
    (hcovered : f.validate s = .ok ()) (hexamples : f.exampleParams s ≠ []) {groups : List Group}
    (hgroups : f.groups s o = .ok groups) {row : Row} (hrow : row ∈ instances groups) :
    (∀ name ∈ f.stepParams s, (∃ v, row.get? name = some v) ↔ ¬f.Valueless s name) ∧
    ∀ step ∈ f.stepsOf s, ∀ c : Context, c.row = some row → ∀ fm : Formal,
      (fm.name ∈ Param.generals step.text → ¬f.Valueless s fm.name →
        ∃ v, row.get? fm.name = some v ∧
          fm.findOrDefault step c.source fm.name = .ok (v, true)) ∧
      ∀ a, step.aliases.find? fm.name = some a → ¬f.Valueless s a.target →
        ∃ v, row.get? a.target = some v ∧
          fm.findOrDefault step c.source a.target = .ok (v, true) := by
  have hbinds : ∀ name ∈ f.stepParams s,
      (∃ v, row.get? name = some v) ↔ ¬f.Valueless s name := by
    intro name hname
    rw [exists_get?_iff_of_parse h hs hgroups hrow, Valueless,
      and_iff_right (suppliers_ne_nil hcovered hexamples hname), not_forall₂]
    simp only [exists_prop]
  refine ⟨hbinds, fun step hstep c hc fm => ⟨fun hgeneral hvalues => ?_, fun a ha hvalues => ?_⟩⟩
  · have hname := mem_stepParams hstep (Step.mem_params_of_mem_generals hgeneral)
    obtain ⟨v, hv⟩ := (hbinds fm.name hname).mpr hvalues
    exact ⟨v, hv, fm.findOrDefault_of_row step hc hv⟩
  · have hname := mem_stepParams hstep (Step.mem_params_of_alias ha)
    obtain ⟨v, hv⟩ := (hbinds a.target hname).mpr hvalues
    exact ⟨v, hv, fm.findOrDefault_of_row step hc hv⟩

/-- Columns of the scenario and of its feature in both orientations, of which that of `b` has no
values. -/
theorem binds_of_validate_of_names_only :
    let t : Text := Text.unlines ["Feature: F", "Examples: Vertical", "| a | 8 |", "| c | 7 |",
      "Scenario: S", "Given <a> and <b> and <x.A:c>", "Examples:", "| a |", "| 1 |",
      "Examples: Vertical", "| b |"]
    ∃ f s groups row, parse t = .ok f ∧ s ∈ f.scenarios ∧ f.validate s = .ok () ∧
      f.exampleParams s ≠ [] ∧ f.groups s .none = .ok groups ∧ row ∈ instances groups ∧
      f.stepParams s = [['a'], ['b'], ['c']] ∧ (∃ v, row.get? ['a'] = some v) ∧
      (¬∃ v, row.get? ['b'] = some v) ∧ ∃ v, row.get? ['c'] = some v := by
  intro t
  obtain ⟨f, s, groups, row, hparse, hs, hcovered, hexamples, hgroups, hrow, hparams, ha, hb, hc⟩ :
      ∃ f s groups row, parse t = .ok f ∧ s ∈ f.scenarios ∧ f.validate s = .ok () ∧
        f.exampleParams s ≠ [] ∧ f.groups s .none = .ok groups ∧ row ∈ instances groups ∧
        f.stepParams s = [['a'], ['b'], ['c']] ∧
        ¬f.Valueless s ['a'] ∧ f.Valueless s ['b'] ∧ ¬f.Valueless s ['c'] :=
    ⟨_, _, _, _, rfl, List.mem_cons_self, rfl, by decide +kernel, rfl, List.mem_cons_self,
      by decide +kernel, by decide +kernel, by decide +kernel, by decide +kernel⟩
  have hbinds := (binds_of_validate hparse hs hcovered hexamples hgroups hrow).1
  rw [hparams] at hbinds
  refine ⟨f, s, groups, row, hparse, hs, hcovered, hexamples, hgroups, hrow, hparams, ?_, ?_, ?_⟩
  · exact (hbinds ['a'] (by decide)).mpr ha
  · exact fun hbound => (hbinds ['b'] (by decide)).mp hbound hb
  · exact (hbinds ['c'] (by decide)).mpr hc

/-- A covered scenario runs with a row that does not bind a parameter: the lines of the block with
its column hold only names. -/
theorem unbound_of_names_only :
    let t : Text := Text.unlines ["Feature: F", "Scenario: S", "Given <a> and <b>",
      "Examples: Vertical", "| a |", "Examples:", "| b |", "| 1 |"]
    ∃ f s groups row, parse t = .ok f ∧ s ∈ f.scenarios ∧ f.validate s = .ok () ∧
      f.exampleParams s ≠ [] ∧ f.groups s .none = .ok groups ∧ row ∈ instances groups ∧
      ['a'] ∈ f.stepParams s ∧ row.get? ['a'] = none := by
  intro t
  exact ⟨_, _, _, _, rfl, List.mem_cons_self, rfl, by decide +kernel, rfl, List.mem_cons_self,
    by decide +kernel, rfl⟩

end Feature

end FeatureDoc
