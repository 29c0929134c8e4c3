/-
# What the JSON form of a feature holds

A feature that has been read can be found again from its JSON form: no two features have the same
one. What a step binds is not compared value by value, since different values can have one form,
but comes from the text of the step. The columns of a vertical block, of which only rows are
written, are found from these and the names.

* `Step.eq_of_toJson`, `ExampleBlock.eq_of_toJson` : steps and blocks with the same form;
* `Feature.makes_iff` : the features that have a form;
* `Feature.Sound.eq_of_hasForm` : features with the same form.
-/
import FeatureDoc.Feature.Report
import FeatureDoc.Proofs.Json.Record
import FeatureDoc.Proofs.Reading.Steps
import FeatureDoc.Proofs.Reading.Tables

namespace FeatureDoc

/-! ## Simple forms -/

/-- Numbers have different forms. -/
theorem Json.natural_injective : Function.Injective Json.natural := by
  intro m n h
  exact Int.ofNat.inj (Number.integer.inj (number.inj h))

/-- Lists of texts have different forms. -/
theorem Json.strings_injective : Function.Injective Json.strings := by
  intro ts us h
  exact List.map_injective_iff.mpr (fun t u htu => Json.string.inj htu) (Json.array.inj h)

/-- Texts that may be missing have different forms. -/
theorem optionJson_injective : Function.Injective optionJson := by
  intro t u h
  cases t <;> cases u <;> simp_all [optionJson]

/-- Step types have different words. -/
theorem StepType.word_injective : Function.Injective StepType.word := by
  intro a b h
  revert h
  cases a <;> cases b <;> decide

/-- Orientations have different words. -/
theorem Orientation.word_injective : Function.Injective Orientation.word := by
  intro a b h
  revert h
  cases a <;> cases b <;> decide

/-! ## Steps -/

/-- What a step binds is what scanning its text yields. -/
def Step.Scanned (s : Step) : Prop :=
  Param.scan s.text = .ok
    { canonical := s.canonical, constants := s.constants, aliases := s.aliases }

/-- The steps of a document that is read bind what scanning their texts yields. -/
theorem Feature.scanned_of_parse {t : Text} {f : Feature} (h : parse t = .ok f) :
    ∀ s ∈ f.allSteps, s.Scanned := by
  refine forall_step_of_parse ?_ (fun _ hs => hs) h
  intro type keyword text indent line s hs
  obtain ⟨scanned, hscanned, hstep⟩ := exists_of_bind_eq_ok hs
  obtain rfl := Except.ok.inj hstep
  exact hscanned

/-- Steps with the same form are the same. -/
theorem Step.eq_of_toJson {s s' : Step} (hs : s.Scanned) (hs' : s'.Scanned)
    (h : s.toJson = s'.toJson) : s = s' := by
  obtain ⟨type, keyword, text, lines, canonical, indent, constants, aliases, line⟩ := s
  obtain ⟨type', keyword', text', lines', canonical', indent', constants', aliases', line'⟩ := s'
  simp only [toJson, Json.object.injEq, List.cons.injEq, Prod.mk.injEq, Json.string.injEq, true_and,
    and_true] at h
  obtain ⟨htype, rfl, rfl, hlines, -, hindent, -, -, hline⟩ := h
  obtain rfl := StepType.word_injective htype
  obtain rfl := Json.strings_injective hlines
  obtain rfl := Json.natural_injective hindent
  obtain rfl := Json.natural_injective hline
  -- the bindings come from the text
  cases hs.symm.trans hs'
  rfl

/-! ## Example blocks -/

/-- Rectangular blocks with the same form are the same. -/
theorem ExampleBlock.eq_of_toJson {b b' : ExampleBlock} (hb : b.Rectangular) (hb' : b'.Rectangular)
    (h : b.toJson = b'.toJson) : b = b' := by
  simp only [toJson, Json.object.injEq, List.cons.injEq, Prod.mk.injEq, Json.string.injEq, true_and,
    and_true] at h
  obtain ⟨horientation, hline, hnames, hrows⟩ := h
  have horientation := Orientation.word_injective horientation
  have hline := Json.natural_injective hline
  have hnames := Json.strings_injective hnames
  have hrows : b.rows = b'.rows :=
    List.map_injective_iff.mpr Json.strings_injective (Json.array.inj hrows)
  have hvalues : b.values = b'.values := by
    cases hhere : b.orientation with
    | horizontal =>
      rwa [rows, rows, ← horientation, hhere] at hrows
    | vertical =>
      have hthere := horientation ▸ hhere
      obtain ⟨hcount, hcolumns⟩ := hb.columns hhere
      obtain ⟨hcount', hcolumns'⟩ := hb'.columns hthere
      have hcell : ∀ i j, b.cell? i j = b'.cell? i j := fun i j => by
        rw [← hb.getElem?_rows, ← hb'.getElem?_rows, hrows]
      have hlength : b.rowCount = b'.rowCount := by rw [← length_rows, ← length_rows, hrows]
      apply List.ext_getElem
      · rw [hcount, hcount', hnames]
      · intro j hj hj'
        apply List.ext_getElem?
        intro i
        have hsame := hcell i j
        simpa only [cell?, hhere, hthere, List.getElem?_eq_getElem hj, List.getElem?_eq_getElem hj',
          Option.bind_some] using hsame
  cases b
  cases b'
  simp_all

/-! ## Scenarios and backgrounds -/

/-- Lists are the same if the forms of their members are, and tell these members apart. -/
theorem eq_of_map_toJson {α : Type} {P : α → Prop} {form : α → Json}
    (hform : ∀ a a', P a → P a' → form a = form a' → a = a') {as as' : List α}
    (has : ∀ a ∈ as, P a) (has' : ∀ a ∈ as', P a) (h : as.map form = as'.map form) : as = as' := by
  induction as generalizing as' with
  | nil => exact (List.map_eq_nil_iff.mp h.symm).symm
  | cons a as ih =>
    cases as' with
    | nil => cases h
    | cons a' as' =>
      obtain ⟨ha, has⟩ := List.forall_mem_cons.mp has
      obtain ⟨ha', has'⟩ := List.forall_mem_cons.mp has'
      obtain ⟨hfirst, hrest⟩ := List.cons.inj h
      rw [hform a a' ha ha' hfirst, ih has has' hrest]

/-- What holds of scenarios that have been read: their steps bind what the texts say, and their
blocks are rectangular. -/
structure Scenario.Sound (s : Scenario) : Prop where
  steps : ∀ step ∈ s.steps, step.Scanned
  blocks : ∀ b ∈ s.examples, b.Rectangular

/-- Scenarios with the same form are the same. -/
theorem Scenario.eq_of_toJson {s s' : Scenario} (hs : s.Sound) (hs' : s'.Sound)
    (h : s.toJson = s'.toJson) : s = s' := by
  obtain ⟨name, line, keyword, tags, description, steps, examples⟩ := s
  obtain ⟨name', line', keyword', tags', description', steps', examples'⟩ := s'
  simp only [toJson, Json.object.injEq, List.cons.injEq, Prod.mk.injEq, Json.string.injEq,
    Json.array.injEq, true_and, and_true] at h
  obtain ⟨rfl, hline, rfl, htags, rfl, hstepForms, hblockForms⟩ := h
  obtain rfl := Json.natural_injective hline
  obtain rfl := Json.strings_injective htags
  obtain rfl := eq_of_map_toJson (fun _ _ => Step.eq_of_toJson) hs.steps hs'.steps hstepForms
  obtain rfl := eq_of_map_toJson (fun _ _ => ExampleBlock.eq_of_toJson) hs.blocks hs'.blocks
    hblockForms
  rfl

/-- Backgrounds with the same form are the same, and so are those that are missing. -/
theorem eq_of_backgroundJson {b b' : Option Background}
    (hb : ∀ bg ∈ b, ∀ step ∈ bg.steps, step.Scanned)
    (hb' : ∀ bg ∈ b', ∀ step ∈ bg.steps, step.Scanned)
    (h : backgroundJson b = backgroundJson b') : b = b' := by
  cases b with
  | none =>
    cases b' with
    | none => rfl
    | some bg' => cases h
  | some bg =>
    cases b' with
    | none => cases h
    | some bg' =>
      obtain ⟨line, description, steps⟩ := bg
      obtain ⟨line', description', steps'⟩ := bg'
      simp only [backgroundJson, Background.toJson, Json.object.injEq, List.cons.injEq,
        Prod.mk.injEq, Json.string.injEq, Json.array.injEq, true_and, and_true] at h
      obtain ⟨hline, rfl, hstepForms⟩ := h
      obtain rfl := Json.natural_injective hline
      obtain rfl := eq_of_map_toJson (fun _ _ => Step.eq_of_toJson) (hb _ rfl) (hb' _ rfl)
        hstepForms
      rfl

/-! ## Features -/

namespace Feature

/-- What holds of features that have been read: steps bind what their texts say, and blocks are
rectangular. -/
structure Sound (f : Feature) : Prop where
  steps : ∀ s ∈ f.allSteps, s.Scanned
  blocks : ∀ b ∈ f.allExamples, b.Rectangular

/-- A document that is read describes a sound feature. -/
theorem sound_of_parse {t : Text} {f : Feature} (h : parse t = .ok f) : f.Sound where
  steps := scanned_of_parse h
  blocks := rectangular_of_parse h

namespace Sound

variable {f : Feature} (h : f.Sound)
include h

/-- The scenarios of a sound feature are sound. -/
theorem scenario : ∀ s ∈ f.scenarios, s.Sound := fun s hs =>
  { steps := fun step hstep => h.steps step (mem_allSteps.mpr (Or.inr ⟨s, hs, hstep⟩))
    blocks := fun b hb => h.blocks b (mem_allExamples.mpr (Or.inl ⟨s, hs, hb⟩)) }

/-- The steps of the background of a sound feature bind what their texts say. -/
theorem background : ∀ bg ∈ f.background, ∀ step ∈ bg.steps, step.Scanned :=
  fun bg hbg step hstep => h.steps step (mem_allSteps.mpr (Or.inl ⟨bg, hbg, hstep⟩))

/-- The feature's own blocks are rectangular in a sound feature. -/
theorem examples : ∀ b ∈ f.examples, b.Rectangular := fun b hb =>
  h.blocks b (mem_allExamples.mpr (Or.inr hb))

end Sound

/-- The form of a feature with paths that are the given texts. -/
def form (f : Feature) (path relativePath : Text) : Json := .object [
  ("name", optionJson f.name),
  ("tags", .strings f.tags),
  ("description", .string f.description),
  ("path", .string path),
  ("rel_path", .string relativePath),
  ("line", .natural f.line),
  ("scenarios", .array (f.scenarios.map Scenario.toJson)),
  ("background", backgroundJson f.background),
  ("examples", .array (f.examples.map ExampleBlock.toJson))]

/-- A feature with paths that are texts has a form. -/
def HasForm (f : Feature) (doc : Json) : Prop :=
  ∃ path relativePath, f.path = Utf8.encode path ∧ f.relativePath = Utf8.encode relativePath ∧
    doc = f.form path relativePath

/-- The record of a feature makes its form, and nothing if it has none. -/
theorem makes_iff {f : Feature} {doc : Json} : f.toJson.Makes doc ↔ f.HasForm doc := by
  have hmakes : ∀ path relativePath, f.path = Utf8.encode path →
      f.relativePath = Utf8.encode relativePath → f.toJson.Makes (f.form path relativePath) := by
    intro path relativePath hpath hrelative
    refine ⟨_, ?_, rfl⟩
    simp [toJson, Path.text?_eq_some_iff.mpr hpath, Path.text?_eq_some_iff.mpr hrelative]
  constructor
  · intro h
    have hfields : (("path", f.path.text?.map .string) : Text × Option Json) ∈ f.toJson.fields ∧
        (("rel_path", f.relativePath.text?.map .string) : Text × Option Json) ∈
          f.toJson.fields := by
      simp [toJson]
    obtain ⟨v, hv⟩ := h.exists_value hfields.1
    obtain ⟨w, hw⟩ := h.exists_value hfields.2
    obtain ⟨path, hpath, -⟩ := Option.map_eq_some_iff.mp hv
    obtain ⟨relativePath, hrelative, -⟩ := Option.map_eq_some_iff.mp hw
    rw [Path.text?_eq_some_iff] at hpath hrelative
    exact ⟨path, relativePath, hpath, hrelative, h.unique (hmakes _ _ hpath hrelative)⟩
  · rintro ⟨path, relativePath, hpath, hrelative, rfl⟩
    exact hmakes path relativePath hpath hrelative

/-- Features with the same form are the same. -/
theorem Sound.eq_of_hasForm {f f' : Feature} (hf : f.Sound) (hf' : f'.Sound) {doc : Json}
    (h : f.HasForm doc) (h' : f'.HasForm doc) : f = f' := by
  obtain ⟨path, relativePath, hpath, hrelative, hdoc⟩ := h
  obtain ⟨path', relativePath', hpath', hrelative', hdoc'⟩ := h'
  have hforms := hdoc.symm.trans hdoc'
  simp only [form, Json.object.injEq, List.cons.injEq, Prod.mk.injEq, Json.string.injEq,
    Json.array.injEq, true_and, and_true] at hforms
  obtain ⟨hname, htags, hdescription, rfl, rfl, hline, hscenarios, hbackground, hexamples⟩ := hforms
  have hname := optionJson_injective hname
  have htags := Json.strings_injective htags
  have hline := Json.natural_injective hline
  have hscenarios := eq_of_map_toJson (fun _ _ => Scenario.eq_of_toJson) hf.scenario hf'.scenario
    hscenarios
  have hbackground := eq_of_backgroundJson hf.background hf'.background hbackground
  have hexamples := eq_of_map_toJson (fun _ _ => ExampleBlock.eq_of_toJson) hf.examples hf'.examples
    hexamples
  cases f
  cases f'
  simp_all

end Feature

end FeatureDoc
