/-
# A cache and loading

On files that do not change, a cache answers with what loading would yield. One tree is shared by
all spellings of a path, so that the two paths in the feature are those of the spelling that was
loaded.

* `CacheState.made_of_find?` : an entry was made by loading a document of the same files;
* `CacheState.shares_of_find?` : an entry stands for what is loaded under another spelling;
* `CacheState.answer_compared` : the answer to any question, beside what loading yields;
* `CacheState.answer_unlike_load` : two spellings of one path.
-/
import FeatureDoc.Proofs.Disk.Finding
import FeatureDoc.Proofs.Disk.History

namespace FeatureDoc

/-- The files do not change in some events. -/
def CacheEvent.KeepFiles (es : List CacheEvent) : Prop := ∀ disk, .edit disk ∉ es

namespace CacheState

/-- Events in which the files do not change leave them as they are. -/
theorem disk_run {s : CacheState} {es : List CacheEvent} (hes : CacheEvent.KeepFiles es) :
    (s.run es).disk = s.disk := by
  induction es generalizing s with
  | nil => rfl
  | cons e rest ih =>
    have hrest : CacheEvent.KeepFiles rest := fun disk h => hes disk (List.mem_cons_of_mem e h)
    have hstep : (s.step e).disk = s.disk := by
      cases e with
      | ask base file => rfl
      | clear => rfl
      | configure setting => rfl
      | edit disk => exact absurd List.mem_cons_self (hes disk)
    exact (ih hrest).trans hstep

/-- A loaded feature stands for another one with the same absolute path after some events: they
are the same but for their paths. If these differ, it was loaded for an earlier question, which
made the entry of the path. -/
structure Shares (start : CacheState) (es : List CacheEvent) (loaded : LoadedFeature)
    (f : Feature) : Prop where
  content : loaded.feature = f.placed loaded.feature.path loaded.feature.relativePath
  names : Path.names loaded.feature.path = Path.names f.path
  spelling : loaded.feature = f ∨ (start.run es).setting.isOn = true ∧
    start.Asked es fun s base file => s.Makes base file (Path.names f.path, loaded) ∧
      (start.disk.load base file).result = .ok loaded.feature

/-- Two spellings of a path that lead to a text lead to the same one. -/
theorem readText_unique {d : Disk} (hcwd : Path.isAbsolute d.cwd = true)
    {base file base' file' path path' : Path} {t t' : Text}
    (hpath : d.documentPath? base file = some path)
    (hpath' : d.documentPath? base' file' = some path')
    (hnames : Path.names path = Path.names path')
    (hread : d.readText path = .ok t) (hread' : d.readText path' = .ok t') : t = t' := by
  have habs := Path.isAbsolute_of_absolute? hcwd hpath
  have habs' := Path.isAbsolute_of_absolute? hcwd hpath'
  have hsame := d.readText_congr habs habs' hnames (Disk.endsInName_of_readText habs hread)
    (Disk.endsInName_of_readText habs' hread')
  exact Except.ok.inj (hread.symm.trans (hsame.trans hread'))

/-- An entry was made by loading a document of the files as they still are. -/
theorem made_of_find? {start : CacheState} (hstart : start.cache = []) {es : List CacheEvent}
    (hes : CacheEvent.KeepFiles es) {path : Path} {loaded : LoadedFeature}
    (hheld : (start.run es).cache.find? path = some loaded) :
    start.Asked es fun s base file => s.Makes base file (Path.names path, loaded) ∧
      s.disk = start.disk := by
  obtain ⟨front, back, hcache, -⟩ := List.lookup_eq_some_iff.mp hheld
  obtain ⟨before, base, file, after, rfl, hafter, hmakes⟩ :=
    origin hstart es (Path.names path, loaded) (by rw [hcache]; simp)
  have hbefore : CacheEvent.KeepFiles before := fun disk h =>
    hes disk (List.mem_append_left _ h)
  exact ⟨before, base, file, after, rfl, hafter, hmakes, disk_run hbefore⟩

/-- The entry of a path stands for the feature that is loaded there. -/
theorem shares_of_find? {start : CacheState} (hstart : start.cache = [])
    (hcwd : Path.isAbsolute start.disk.cwd = true) {es : List CacheEvent}
    (hes : CacheEvent.KeepFiles es) (hon : (start.run es).setting.isOn = true)
    {base file path : Path} (hpath : start.disk.documentPath? base file = some path)
    {loaded : LoadedFeature} (hheld : (start.run es).cache.find? path = some loaded) {f : Feature}
    (hload : (start.disk.load base file).result = .ok f) : start.Shares es loaded f := by
  obtain ⟨path', t, g, hpath', hread, hparse, hf⟩ := Disk.load_eq_ok_iff.mp hload
  obtain rfl := Option.some.inj (hpath.symm.trans hpath')
  obtain ⟨before, base', file', after, hevents, hafter, hmakes, hdisk⟩ :=
    made_of_find? hstart hes hheld
  obtain ⟨made, t', g', hmade, hnames, hread', hparse', hfeature⟩ := hmakes.read
  rw [hdisk] at hmade hread'
  obtain rfl := readText_unique hcwd hpath hmade hnames hread hread'
  obtain rfl := Except.ok.inj (hparse.symm.trans hparse')
  have hfpath : f.path = path := by rw [hf]; rfl
  have hloaded : (start.disk.load base' file').result = .ok loaded.feature :=
    Disk.load_eq_ok_iff.mpr ⟨made, t, g, hmade, hread', hparse, hfeature⟩
  refine { content := ?_
           names := ?_
           spelling := Or.inr ⟨hon, before, base', file', after, hevents, hafter, ?_, hloaded⟩ }
  · change loaded.feature = _ at hfeature
    rw [hfeature, hf]
    rfl
  · rw [← hmakes.keyed, hfpath]
  · rwa [hfpath]

/-- A path with an entry at which nothing is loaded goes on behind its last name. -/
theorem endsInName_eq_false_of_find? {start : CacheState} (hstart : start.cache = [])
    (hcwd : Path.isAbsolute start.disk.cwd = true) {es : List CacheEvent}
    (hes : CacheEvent.KeepFiles es) {base file path : Path}
    (hpath : start.disk.documentPath? base file = some path) {loaded : LoadedFeature}
    (hheld : (start.run es).cache.find? path = some loaded) {e : LoadError}
    (hload : (start.disk.load base file).result = .error e) : Path.endsInName path = false := by
  by_contra hends
  rw [Bool.not_eq_false] at hends
  obtain ⟨before, base', file', after, -, -, hmakes, hdisk⟩ := made_of_find? hstart hes hheld
  obtain ⟨made, t, g, hmade, hnames, hread, hparse, -⟩ := hmakes.read
  rw [hdisk] at hmade hread
  have habs := Path.isAbsolute_of_absolute? hcwd hpath
  have habs' := Path.isAbsolute_of_absolute? hcwd hmade
  have hsame := start.disk.readText_congr habs habs' hnames hends
    (Disk.endsInName_of_readText habs' hread)
  have hok := Disk.load_eq_ok_iff.mpr ⟨path, t, g, hpath, hsame.trans hread, hparse, rfl⟩
  cases hload.symm.trans hok

/-- On files that do not change, any question has the answer that loading yields, but for the
paths in the feature: these are the ones of the question that made the entry. Where nothing is
loaded, nothing is answered either, unless the path goes on behind its last name and the file has
an entry: then this is the answer. -/
theorem answer_compared (setting : Setting) {d : Disk} (hcwd : Path.isAbsolute d.cwd = true)
    (nextTree : Nat) {es : List CacheEvent} (hes : CacheEvent.KeepFiles es) (base file : Path) :
    let start := fresh setting d nextTree
    let s := start.run es
    (∀ f, (d.load base file).result = .ok f →
      ∃ loaded, (s.answer base file).result = .ok loaded ∧ start.Shares es loaded f) ∧
    (∀ e, (d.load base file).result = .error e → (s.answer base file).result = .error e ∨
      s.setting.isOn = true ∧ ∃ path loaded, d.documentPath? base file = some path ∧
        Path.endsInName path = false ∧ s.cache.find? path = some loaded ∧
        (s.answer base file).result = .ok loaded) := by
  intro start s
  have hempty : start.cache = [] := rfl
  have hdisk : s.disk = d := disk_run hes
  have hanswer := s.answered base file
  rw [hdisk] at hanswer
  generalize s.answer base file = answer at hanswer
  cases hanswer with
  | @kept path loaded hon hpath hheld =>
    constructor
    · intro f hload
      exact ⟨loaded, rfl, shares_of_find? hempty hcwd hes hon hpath hheld hload⟩
    · intro e hload
      have hends := endsInName_eq_false_of_find? hempty hcwd hes hpath hheld hload
      exact Or.inr ⟨hon, path, loaded, hpath, hends, hheld, rfl⟩
  | failed hload =>
    rw [hload]
    constructor
    · rintro f ⟨⟩
    · rintro e ⟨⟩
      exact Or.inl rfl
  | loaded hpath hmissing hload =>
    rw [hload]
    constructor
    · rintro f ⟨⟩
      exact ⟨_, rfl, { content := rfl, names := rfl, spelling := Or.inl rfl }⟩
    · rintro e ⟨⟩

/-- A file in a directory of a directory. -/
def nested : Disk :=
  (Disk.empty "/").put "a/b/f.feature" (.file (some "Feature: F\n"))

/-- The file is asked for in two directories. -/
theorem answer_compared_of_nested :
    let start := fresh ⟨none, none, true⟩ nested 0
    let es : List CacheEvent := [.ask "a/b" "f.feature"]
    Path.isAbsolute nested.cwd = true ∧ CacheEvent.KeepFiles es ∧
      ∃ f, (nested.load "a" "b/f.feature").result = .ok f ∧
        ∃ loaded, ((start.run es).answer "a" "b/f.feature").result = .ok loaded ∧
          start.Shares es loaded f := by
  have hes : CacheEvent.KeepFiles [.ask "a/b" "f.feature"] := fun disk h => by simp at h
  have h := answer_compared ⟨none, none, true⟩ (d := nested) rfl 0 hes "a" "b/f.feature"
  exact ⟨rfl, hes, _, rfl, h.1 _ rfl⟩

/-- A file that has an entry under another spelling is given with the relative path of that
spelling. It is given even under a path that asks for a directory, where nothing is loaded. -/
theorem answer_unlike_load :
    let s := (fresh ⟨none, none, true⟩ nested 0).run [.ask "a/b" "f.feature"]
    (∃ loaded f, (s.answer "a" "b/f.feature").result = .ok loaded ∧
      (nested.load "a" "b/f.feature").result = .ok f ∧
      loaded.feature.relativePath = "b/f.feature" ∧ f.relativePath = "a/b/f.feature") ∧
    ∃ loaded e, (s.answer "a/b" "f.feature/").result = .ok loaded ∧
      (nested.load "a/b" "f.feature/").result = .error e :=
  ⟨⟨_, _, rfl, rfl, rfl, rfl⟩, _, _, rfl, rfl⟩

end CacheState

end FeatureDoc
