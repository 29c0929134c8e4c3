/-
# Documents and their paths

The paths under which a document is read make no difference to what it describes: they are kept
in its feature and shown in its faults.

* `readDocument_result` : a document with paths is read like its text;
* `Disk.load_eq_ok_iff` : a document is loaded exactly if its file can be read and parsed.
-/
import FeatureDoc.Proofs.Reading.View
import FeatureDoc.Disk.Document

namespace FeatureDoc

/-- The feature of the same text under other paths. -/
def Feature.placed (path relativePath : Path) (f : Feature) : Feature :=
  { f with path, relativePath }

/-- A reading of the same lines under other paths. -/
def View.placement (path relativePath : Path) : View :=
  { step := id, indent := id, keepsLines := true, path := fun _ => path,
    relativePath := fun _ => relativePath, indent_step := fun _ => rfl }

/-- Under other paths a feature is the same but for these. -/
theorem View.feature_placement (path relativePath : Path) (f : Feature) :
    (View.placement path relativePath).feature f = f.placed path relativePath := by
  have hscenario : (View.placement path relativePath).scenario = id := by
    funext s
    exact congrArg (fun steps => { s with steps }) (List.map_id s.steps)
  have hbackground : (View.placement path relativePath).background = id := by
    funext b
    exact congrArg (fun steps => { b with steps }) (List.map_id b.steps)
  simp only [View.feature, hscenario, hbackground, List.map_id, Option.map_id, id]
  rfl

/-- A line is read in the same way under other paths. -/
theorem View.lines_placement (path relativePath : Path) (raw : Text) :
    (View.placement path relativePath).Lines raw raw where
  trim := rfl
  clean := rfl
  blank := rfl
  deeper := fun _ => Iff.rfl
  declared := by
    intro type keyword text line
    cases Step.ofLine type keyword text (Text.indentWidth raw) line <;> rfl

/-- A document with paths is read like its text, and shows its own path in its faults. -/
theorem readDocument_result (path relativePath : Path) (t : Text) :
    (∃ f, parse t = .ok f ∧
      (readDocument path relativePath t).result = .ok (f.placed path relativePath)) ∨
    (∃ e, parse t = .error e ∧ (readDocument path relativePath t).result =
      .error { e with path := (Feature.empty path relativePath).pathLabel }) := by
  have hstart : (View.placement path relativePath).Shows (Draft.start [] [])
      (Draft.start path relativePath) := by
    constructor <;> rfl
  have hlines : List.Forall₂ (fun raw raw' => (View.placement path relativePath).Lines raw raw' ∧
      ∀ s : Step, (id s).addLine raw' = id (s.addLine raw)) (Text.lines t) (Text.lines t) := by
    rw [List.forall₂_same]
    exact fun raw _ => ⟨View.lines_placement path relativePath raw, fun _ => rfl⟩
  have hfeed : (View.placement path relativePath).InStep
      ((Draft.start [] []).feedAll 1 (Text.lines t))
      ((Draft.start path relativePath).feedAll 1 (Text.lines t)) := hstart.feedAll rfl hlines
  have hread := hfeed.bind fun _ _ h => h.finish
  rcases hread.readDocument_eq with ⟨f, hf, hf'⟩ | ⟨f, fault, line, hf, hf'⟩
  · rw [View.feature_placement] at hf'
    exact Or.inl ⟨f, hf, hf'⟩
  · exact Or.inr ⟨_, hf, hf'⟩

/-- Reading under paths succeeds with the feature of the text under these paths. -/
theorem readDocument_eq_ok_iff {path relativePath : Path} {t : Text} {f : Feature} :
    (readDocument path relativePath t).result = .ok f ↔
      ∃ g, parse t = .ok g ∧ f = g.placed path relativePath := by
  rcases readDocument_result path relativePath t with ⟨g, hg, hread⟩ | ⟨e, he, hread⟩
  · rw [hread]
    constructor
    · rintro ⟨⟩
      exact ⟨g, hg, rfl⟩
    · rintro ⟨g', hg', rfl⟩
      rw [hg] at hg'
      rw [Except.ok.inj hg']
  · rw [hread]
    constructor
    · rintro ⟨⟩
    · rintro ⟨g, hg, -⟩
      rw [he] at hg
      cases hg

/-- A document is loaded exactly if its path has an absolute form, a text is read there, and the
text can be parsed. -/
theorem Disk.load_eq_ok_iff {d : Disk} {base file : Path} {f : Feature} :
    (d.load base file).result = .ok f ↔ ∃ path t g, d.documentPath? base file = some path ∧
      d.readText path = .ok t ∧ parse t = .ok g ∧
      f = g.placed path (Disk.relativePath base file) := by
  unfold load
  cases hpath : d.documentPath? base file with
  | none => simp
  | some path =>
    cases hread : d.readText path with
    | error cause => simp [hread]
    | ok t =>
      have hresult : ∀ x : Except ReadError Feature,
          x.mapError LoadError.invalid = .ok f ↔ x = .ok f := by
        intro x
        cases x <;> simp [Except.mapError]
      simp only [hread, Option.some.injEq, Except.ok.injEq, exists_and_left, exists_eq_left']
      rw [hresult, readDocument_eq_ok_iff]

end FeatureDoc
