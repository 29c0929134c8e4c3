/-
# Histories of a cache

A cache is asked for documents, cleared and switched on and off, while the files on the disk
change. What it holds after all this is settled by the questions since it was last cleared: each
file that they have found has one entry, which the first of these questions made.

* `FeatureCache.answered_get` : all that a question can come to;
* `CacheState.step_cache` : all that an event can do to the entries;
* `CacheState.cacheHistory` : what holds after any events.
-/
import FeatureDoc.Disk.Cache
import FeatureDoc.Proofs.Disk.Document
import FeatureDoc.Settings
import Mathlib.Data.Set.Card

namespace FeatureDoc

/-! ## One question -/

namespace FeatureCache

/-- All that asking a cache for a document can come to. -/
inductive Answered (c : FeatureCache) (enabled : Bool) (nextTree : Nat) (d : Disk)
    (base file : Path) : CacheAnswer → Prop where
  /-- The document has an entry, and its feature is given. -/
  | kept {path : Path} {loaded : LoadedFeature} (on : enabled = true)
      (hpath : d.documentPath? base file = some path) (held : c.find? path = some loaded) :
      Answered c enabled nextTree d base file
        { result := .ok loaded, cache := c, nextTree
          journal := [⟨.debug, .storing, "feature cache hit for " ++ path.display⟩] }
  /-- The document cannot be loaded. -/
  | failed {e : LoadError} (hload : (d.load base file).result = .error e)
      (missing : ∀ path, enabled = true → d.documentPath? base file = some path →
        c.find? path = none) :
      Answered c enabled nextTree d base file
        { result := .error e, cache := c, nextTree, journal := (d.load base file).journal }
  /-- The document is loaded, and its feature is kept if features are to be kept. -/
  | loaded {path : Path} {feature : Feature} (hpath : d.documentPath? base file = some path)
      (missing : enabled = true → c.find? path = none)
      (hload : (d.load base file).result = .ok feature) :
      Answered c enabled nextTree d base file
        { result := .ok ⟨feature, nextTree⟩
          cache := if enabled then (Path.names path, ⟨feature, nextTree⟩) :: c else c
          nextTree := nextTree + 1, journal := (d.load base file).journal }

/-- What a cache answers is one of these. -/
theorem answered_get (c : FeatureCache) (enabled : Bool) (nextTree : Nat) (d : Disk)
    (base file : Path) :
    c.Answered enabled nextTree d base file (c.get enabled nextTree d base file) := by
  cases hpath : d.documentPath? base file with
  | none =>
    have hload : d.load base file =
        { result := .error (.unreadable (Path.join base file) .emptyPath), journal := [] } := by
      rw [Disk.load, hpath]
    have hget : c.get enabled nextTree d base file =
        { result := .error (.unreadable (Path.join base file) .emptyPath), cache := c, nextTree
          journal := (d.load base file).journal } := by
      rw [get, hpath, hload]
    rw [hget]
    exact .failed (congrArg Loading.result hload) fun path _ h => by cases hpath.symm.trans h
  | some path =>
    cases hheld : if enabled then c.find? path else none with
    | some loaded =>
      have hget : c.get enabled nextTree d base file =
          { result := .ok loaded, cache := c, nextTree
            journal := [⟨.debug, .storing, "feature cache hit for " ++ path.display⟩] } := by
        simp only [get, hpath, hheld]
      obtain ⟨hon, hheld⟩ : enabled = true ∧ c.find? path = some loaded := by
        simpa using hheld
      rw [hget]
      exact .kept hon hpath hheld
    | none =>
      have hmissing : enabled = true → c.find? path = none := by
        rintro rfl
        simpa using hheld
      have hget : c.get enabled nextTree d base file =
          c.loadInto enabled nextTree d base file path := by
        simp only [get, hpath, hheld]
      rw [hget, loadInto]
      cases hload : (d.load base file).result with
      | error e =>
        refine .failed hload fun path' hon hpath' => ?_
        cases hpath.symm.trans hpath'
        exact hmissing hon
      | ok feature => exact .loaded hpath hmissing hload

end FeatureCache

/-! ## Histories -/

/-- What can happen while a cache is in use. -/
inductive CacheEvent where
  /-- The cache is asked for the document in a file of a directory. -/
  | ask (base file : Path)
  /-- All entries are forgotten. -/
  | clear
  /-- Keeping features is switched on or off. -/
  | configure (setting : Setting)
  /-- The files change. -/
  | edit (disk : Disk)

/-- A cache with all that its answers depend on. -/
structure CacheState where
  cache : FeatureCache
  /-- Whether features are to be kept. -/
  setting : Setting
  disk : Disk
  /-- The number for the next tree. -/
  nextTree : Nat

namespace CacheState

/-- A new cache. -/
def fresh (setting : Setting) (disk : Disk) (nextTree : Nat) : CacheState :=
  { cache := [], setting, disk, nextTree }

/-- What the cache answers. -/
def answer (s : CacheState) (base file : Path) : CacheAnswer :=
  s.cache.get s.setting.isOn s.nextTree s.disk base file

/-- What one event leads to. -/
def step (s : CacheState) : CacheEvent → CacheState
  | .ask base file =>
    let answer := s.answer base file
    { s with cache := answer.cache, nextTree := answer.nextTree }
  | .clear => { s with cache := [] }
  | .configure setting => { s with setting }
  | .edit disk => { s with disk }

/-- What events lead to, one after the other. -/
def run (s : CacheState) (es : List CacheEvent) : CacheState := es.foldl step s

/-- The last event leads on from where the others have led. -/
theorem run_concat (s : CacheState) (es : List CacheEvent) (e : CacheEvent) :
    s.run (es ++ [e]) = (s.run es).step e := List.foldl_concat ..

/-- More events lead on from where the first ones have led. -/
theorem run_append (s : CacheState) (es more : List CacheEvent) :
    s.run (es ++ more) = (s.run es).run more := List.foldl_append ..

/-- A question about a document makes an entry: features are to be kept, the file has no entry,
and the entry gets what its text describes now, as a new tree. -/
structure Makes (s : CacheState) (base file : Path) (entry : List Path × LoadedFeature) :
    Prop where
  on : s.setting.isOn = true
  missing : s.cache.lookup entry.1 = none
  read : ∃ path t f, s.disk.documentPath? base file = some path ∧ entry.1 = Path.names path ∧
    s.disk.readText path = .ok t ∧ parse t = .ok f ∧
    entry.2.feature = f.placed path (Disk.relativePath base file)
  answered : (s.answer base file).result = .ok entry.2
  tree : entry.2.tree = s.nextTree

/-- A question about a document of this absolute path has an answer while features are to be
kept. -/
def LooksUp (s : CacheState) (base file : Path) (key : List Path) : Prop :=
  s.setting.isOn = true ∧
    (∃ path, s.disk.documentPath? base file = some path ∧ key = Path.names path) ∧
    ∃ loaded, (s.answer base file).result = .ok loaded

/-- Since the cache was last cleared, a question has had the given property. -/
def Asked (s : CacheState) (es : List CacheEvent) (P : CacheState → Path → Path → Prop) : Prop :=
  ∃ before base file after, es = before ++ .ask base file :: after ∧ .clear ∉ after ∧
    P (s.run before) base file

end CacheState

/-- What holds of a cache after some events, whatever they are. -/
structure CacheHistory (start : CacheState) (es : List CacheEvent) : Prop where
  /-- The key of an entry is the absolute path of its feature. -/
  keyed : ∀ entry ∈ (start.run es).cache, entry.1 = Path.names entry.2.feature.path
  /-- No two entries have the same key. -/
  keys : ((start.run es).cache.map (·.1)).Nodup
  /-- No two entries hold the same tree. -/
  trees : ((start.run es).cache.map (·.2.tree)).Nodup
  /-- Each entry was made by a question since the cache was last cleared. -/
  origin : ∀ entry ∈ (start.run es).cache,
    start.Asked es fun s base file => s.Makes base file entry
  /-- An entry stays the same until the cache is cleared. -/
  kept : ∀ key loaded, (start.run es).cache.lookup key = some loaded →
    ∀ more, .clear ∉ more → (start.run (es ++ more)).cache.lookup key = some loaded
  /-- A file with an entry is not read: whatever is on the disk, the answer is the entry. -/
  hit : ∀ base file path loaded, (start.run es).setting.isOn = true →
    (start.run es).disk.documentPath? base file = some path →
    (start.run es).cache.find? path = some loaded →
    ∀ root, ({ start.run es with
        disk := { (start.run es).disk with root } } : CacheState).answer base file =
      { result := .ok loaded, cache := (start.run es).cache, nextTree := (start.run es).nextTree
        journal := [⟨.debug, .storing, "feature cache hit for " ++ path.display⟩] }
  /-- A question without an answer changes no entry, and no question does while features are not
  to be kept. -/
  unchanged : ∀ base file, (start.run es).setting.isOn = false ∨
      (∃ e, ((start.run es).answer base file).result = .error e) →
    ((start.run es).answer base file).cache = (start.run es).cache
  /-- The keys are the absolute paths that have been looked up since the cache was last
  cleared. -/
  held : ∀ key, key ∈ (start.run es).cache.map (·.1) ↔
    start.Asked es fun s base file => s.LooksUp base file key
  /-- There are as many entries as such paths. -/
  size : (start.run es).cache.length =
    {key | start.Asked es fun s base file => s.LooksUp base file key}.ncard

namespace CacheState

/-! ## What one event does -/

/-- What a question can come to. -/
theorem answered (s : CacheState) (base file : Path) :
    s.cache.Answered s.setting.isOn s.nextTree s.disk base file (s.answer base file) :=
  FeatureCache.answered_get ..

/-- A question leaves the entries as they are, or makes one more. -/
theorem answer_cache (s : CacheState) (base file : Path) :
    (s.answer base file).cache = s.cache ∧ s.nextTree ≤ (s.answer base file).nextTree ∨
    ∃ entry, s.Makes base file entry ∧ (s.answer base file).cache = entry :: s.cache ∧
      (s.answer base file).nextTree = s.nextTree + 1 := by
  have hanswer := s.answered base file
  generalize hget : s.answer base file = answer at hanswer
  cases hanswer with
  | kept => exact Or.inl ⟨rfl, le_rfl⟩
  | failed => exact Or.inl ⟨rfl, le_rfl⟩
  | @loaded path feature hpath hmissing hload =>
    cases hon : s.setting.isOn with
    | false => exact Or.inl ⟨rfl, Nat.le_succ _⟩
    | true =>
      obtain ⟨path', t, f, hpath', hread, hparse, hfeature⟩ := Disk.load_eq_ok_iff.mp hload
      cases hpath.symm.trans hpath'
      exact Or.inr ⟨(Path.names path, ⟨feature, s.nextTree⟩),
        { on := hon
          missing := hmissing hon
          read := ⟨path, t, f, hpath, rfl, hread, hparse, hfeature⟩
          answered := by rw [hget]
          tree := rfl }, rfl, rfl⟩

/-- An event leaves the entries as they are, forgets them, or makes one more. -/
theorem step_cache (s : CacheState) (e : CacheEvent) :
    e ≠ .clear ∧ (s.step e).cache = s.cache ∧ s.nextTree ≤ (s.step e).nextTree ∨
    e = .clear ∧ (s.step e).cache = [] ∨
    ∃ base file entry, e = .ask base file ∧ s.Makes base file entry ∧
      (s.step e).cache = entry :: s.cache ∧ (s.step e).nextTree = s.nextTree + 1 := by
  cases e with
  | ask base file =>
    rcases s.answer_cache base file with h | ⟨entry, hmakes, hcache, htree⟩
    · exact Or.inl ⟨nofun, h⟩
    · exact Or.inr (Or.inr ⟨base, file, entry, rfl, hmakes, hcache, htree⟩)
  | clear => exact Or.inr (Or.inl ⟨rfl, rfl⟩)
  | configure setting => exact Or.inl ⟨nofun, rfl, le_rfl⟩
  | edit disk => exact Or.inl ⟨nofun, rfl, le_rfl⟩

/-- The key of an entry is the absolute path of the feature that it is made with. -/
theorem Makes.keyed {s : CacheState} {base file : Path} {entry : List Path × LoadedFeature}
    (h : s.Makes base file entry) : entry.1 = Path.names entry.2.feature.path := by
  obtain ⟨path, t, f, -, hkey, -, -, hfeature⟩ := h.read
  rw [hkey, hfeature]
  rfl

/-- A question that makes an entry looks up its key. -/
theorem Makes.looksUp {s : CacheState} {base file : Path} {entry : List Path × LoadedFeature}
    (h : s.Makes base file entry) : s.LooksUp base file entry.1 := by
  obtain ⟨path, t, f, hpath, hkey, -, -, -⟩ := h.read
  exact ⟨h.on, ⟨path, hpath, hkey⟩, entry.2, h.answered⟩

/-! ## Entries -/

/-- The entries of a cache are in order: each has its key, and no two have a key or a tree in
common. -/
structure Ordered (s : CacheState) : Prop where
  keyed : ∀ entry ∈ s.cache, entry.1 = Path.names entry.2.feature.path
  keys : (s.cache.map (·.1)).Nodup
  trees : (s.cache.map (·.2.tree)).Nodup
  numbered : ∀ entry ∈ s.cache, entry.2.tree < s.nextTree

/-- A new cache is in order. -/
theorem Ordered.fresh (setting : Setting) (disk : Disk) (nextTree : Nat) :
    (fresh setting disk nextTree).Ordered where
  keyed := by simp [CacheState.fresh]
  keys := List.nodup_nil
  trees := List.nodup_nil
  numbered := by simp [CacheState.fresh]

/-- An event leaves a cache in order. -/
theorem Ordered.step {s : CacheState} (h : s.Ordered) (e : CacheEvent) : (s.step e).Ordered := by
  rcases s.step_cache e with ⟨-, hcache, htree⟩ | ⟨-, hcache⟩ |
    ⟨base, file, entry, -, hmakes, hcache, htree⟩
  · exact { keyed := hcache ▸ h.keyed
            keys := hcache ▸ h.keys
            trees := hcache ▸ h.trees
            numbered := fun entry hentry => (h.numbered entry (hcache ▸ hentry)).trans_le htree }
  · constructor <;> simp [hcache]
  · have hkey : entry.1 ∉ s.cache.map (·.1) := by
      intro hmem
      obtain ⟨held, hheld, heq⟩ := List.mem_map.mp hmem
      have hne := List.lookup_eq_none_iff.mp hmakes.missing held hheld
      simp [heq] at hne
    have hnew : entry.2.tree ∉ s.cache.map (·.2.tree) := by
      intro hmem
      obtain ⟨held, hheld, heq⟩ := List.mem_map.mp hmem
      have hlt := h.numbered held hheld
      rw [heq, hmakes.tree] at hlt
      exact lt_irrefl _ hlt
    constructor
    · rw [hcache, List.forall_mem_cons]
      exact ⟨hmakes.keyed, h.keyed⟩
    · rw [hcache]
      exact List.nodup_cons.mpr ⟨hkey, h.keys⟩
    · rw [hcache]
      exact List.nodup_cons.mpr ⟨hnew, h.trees⟩
    · rw [hcache, htree, List.forall_mem_cons]
      exact ⟨hmakes.tree ▸ Nat.lt_succ_self _,
        fun held hheld => (h.numbered held hheld).trans (Nat.lt_succ_self _)⟩

/-- Events leave a cache in order. -/
theorem Ordered.run {s : CacheState} (h : s.Ordered) (es : List CacheEvent) :
    (s.run es).Ordered := by
  induction es generalizing s with
  | nil => exact h
  | cons e rest ih => exact ih (h.step e)

/-! ## Where entries come from -/

/-- What has been asked is still asked after an event other than clearing. -/
theorem Asked.concat {s : CacheState} {es : List CacheEvent}
    {P : CacheState → Path → Path → Prop} (h : s.Asked es P) {e : CacheEvent} (he : e ≠ .clear) :
    s.Asked (es ++ [e]) P := by
  obtain ⟨before, base, file, after, rfl, hafter, hP⟩ := h
  refine ⟨before, base, file, after ++ [e], by simp, ?_, hP⟩
  simpa using ⟨hafter, he.symm⟩

/-- Each entry was made by a question since the cache was last cleared. -/
theorem origin {start : CacheState} (hstart : start.cache = []) (es : List CacheEvent) :
    ∀ entry ∈ (start.run es).cache,
      start.Asked es fun s base file => s.Makes base file entry := by
  induction es using List.reverseRecOn with
  | nil =>
    intro entry hentry
    rw [run, List.foldl_nil, hstart] at hentry
    cases hentry
  | append_singleton es e ih =>
    intro entry hentry
    rw [run_concat] at hentry
    rcases (start.run es).step_cache e with ⟨he, hcache, -⟩ | ⟨-, hcache⟩ |
      ⟨base, file, new, rfl, hmakes, hcache, -⟩
    · exact (ih entry (hcache ▸ hentry)).concat he
    · rw [hcache] at hentry
      cases hentry
    · rw [hcache, List.mem_cons] at hentry
      rcases hentry with rfl | hentry
      · exact ⟨es, base, file, [], rfl, List.not_mem_nil, hmakes⟩
      · exact (ih entry hentry).concat nofun

/-! ## How long entries are kept -/

/-- An event other than clearing changes no entry. -/
theorem lookup_step {s : CacheState} {key : List Path} {loaded : LoadedFeature}
    (h : s.cache.lookup key = some loaded) {e : CacheEvent} (he : e ≠ .clear) :
    (s.step e).cache.lookup key = some loaded := by
  rcases s.step_cache e with ⟨-, hcache, -⟩ | ⟨hclear, -⟩ |
    ⟨base, file, entry, -, hmakes, hcache, -⟩
  · rw [hcache, h]
  · exact absurd hclear he
  · have hne : key ≠ entry.1 := by
      rintro rfl
      cases hmakes.missing.symm.trans h
    rw [hcache, List.lookup_cons, beq_false_of_ne hne, h]

/-- Events without a clearing change no entry. -/
theorem lookup_run {s : CacheState} {key : List Path} {loaded : LoadedFeature}
    (h : s.cache.lookup key = some loaded) {es : List CacheEvent} (hes : .clear ∉ es) :
    (s.run es).cache.lookup key = some loaded := by
  induction es generalizing s with
  | nil => exact h
  | cons e rest ih =>
    rw [List.mem_cons, not_or] at hes
    exact ih (lookup_step h (Ne.symm hes.1)) hes.2

/-- A path that is looked up has an entry afterwards. -/
theorem LooksUp.lookup_step {s : CacheState} {base file : Path} {key : List Path}
    (h : s.LooksUp base file key) :
    ∃ loaded, (s.step (.ask base file)).cache.lookup key = some loaded := by
  obtain ⟨hon, ⟨path, hpath, rfl⟩, found, hfound⟩ := h
  have hanswer := s.answered base file
  have hcache : (s.step (.ask base file)).cache = (s.answer base file).cache := rfl
  rw [hcache]
  generalize s.answer base file = answer at hanswer hfound
  cases hanswer with
  | kept _ hpath' hheld =>
    cases hpath.symm.trans hpath'
    exact ⟨_, hheld⟩
  | failed => cases hfound
  | loaded hpath' =>
    cases hpath.symm.trans hpath'
    simp [hon]

/-- The keys are the paths that have been looked up since the cache was last cleared. -/
theorem mem_keys_iff {start : CacheState} (hstart : start.cache = []) (es : List CacheEvent)
    (key : List Path) : key ∈ (start.run es).cache.map (·.1) ↔
      start.Asked es fun s base file => s.LooksUp base file key := by
  constructor
  · intro hkey
    obtain ⟨entry, hentry, rfl⟩ := List.mem_map.mp hkey
    obtain ⟨before, base, file, after, hes, hafter, hmakes⟩ := origin hstart es entry hentry
    exact ⟨before, base, file, after, hes, hafter, hmakes.looksUp⟩
  · rintro ⟨before, base, file, after, rfl, hafter, hlooks⟩
    obtain ⟨loaded, hloaded⟩ := hlooks.lookup_step
    have hheld : ((start.run before).run (.ask base file :: after)).cache.lookup key =
        some loaded := lookup_run hloaded hafter
    rw [run_append]
    obtain ⟨front, back, hcache, -⟩ := List.lookup_eq_some_iff.mp hheld
    rw [hcache]
    simp

/-! ## After any events -/

/-- What holds of a new cache after any events. -/
theorem cacheHistory (setting : Setting) (disk : Disk) (nextTree : Nat) (es : List CacheEvent) :
    CacheHistory (fresh setting disk nextTree) es := by
  have hordered := (Ordered.fresh setting disk nextTree).run es
  have hempty : (fresh setting disk nextTree).cache = [] := rfl
  have hheld := mem_keys_iff hempty es
  refine { keyed := hordered.keyed
           keys := hordered.keys
           trees := hordered.trees
           origin := origin hempty es
           kept := fun key loaded h more hmore => ?_
           hit := fun base file path loaded hon hpath hfind root => ?_
           unchanged := fun base file h => ?_
           held := hheld
           size := ?_ }
  · rw [run_append]
    exact lookup_run h hmore
  · have hpath' : ({ (((fresh setting disk nextTree).run es).disk) with root } : Disk).documentPath?
        base file = some path := hpath
    simp only [answer, FeatureCache.get, hpath', hon, if_true, hfind]
  · rcases answer_cache ((fresh setting disk nextTree).run es) base file with
      ⟨hcache, -⟩ | ⟨entry, hmakes, -⟩
    · exact hcache
    · rcases h with hoff | ⟨e, he⟩
      · cases hoff.symm.trans hmakes.on
      · cases he.symm.trans hmakes.answered
  · have hset : {key | (fresh setting disk nextTree).Asked es fun s base file =>
        s.LooksUp base file key} =
        ((((fresh setting disk nextTree).run es).cache.map (·.1)).toFinset : Set (List Path)) := by
      ext key
      rw [Set.mem_ofPred_eq, ← hheld, List.coe_toFinset, Set.mem_ofPred_eq]
    rw [hset, Set.ncard_coe_finset, List.toFinset_card_of_nodup hordered.keys, List.length_map]

end CacheState

end FeatureDoc
