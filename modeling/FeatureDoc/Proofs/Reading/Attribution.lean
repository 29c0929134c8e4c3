/-
# What belongs to which declaration

A document declares scenarios, the same name possibly several times. Every step and every block
belongs to one declaration: the last one above it. Of the declarations of one name only the last
counts, and nothing that belongs to an earlier one is kept.

* `Layout.Attributed` : the invariant, on the numbers of the lines;
* `Layout.Attributed.opens`, `Layout.Attributed.grows` : what one line does to it;
* `Feature.attributed_of_parse` : the features of all documents that can be read are attributed.
-/
import FeatureDoc.Proofs.Reading.Layout

namespace FeatureDoc

/-! ## Places in a document -/

/-- Line numbers in increasing order, all of them after one line and before another. -/
def Between (low high : Nat) (ns : List Nat) : Prop :=
  ns.Pairwise (· < ·) ∧ ∀ n ∈ ns, low < n ∧ n < high

/-- No lines are between any two lines. -/
theorem between_nil (low high : Nat) : Between low high [] :=
  ⟨List.Pairwise.nil, fun _ hn => absurd hn List.not_mem_nil⟩

/-- Some of the lines are between two lines if all are. -/
theorem Between.sublist {low high : Nat} {ms ns : List Nat} (h : Between low high ns)
    (hsub : ms.Sublist ns) : Between low high ms :=
  ⟨h.1.sublist hsub, fun n hn => h.2 n (hsub.subset hn)⟩

/-- Lines before one line are before every later line. -/
theorem Between.mono {low high high' : Nat} {ns : List Nat} (h : Between low high ns)
    (hle : high ≤ high') : Between low high' ns :=
  ⟨h.1, fun n hn => ⟨(h.2 n hn).1, Nat.lt_of_lt_of_le (h.2 n hn).2 hle⟩⟩

/-- The line that was the bound can be added at the end. -/
theorem Between.concat {low line : Nat} {ns : List Nat} (h : Between low line ns)
    (hlow : low < line) : Between low (line + 1) (ns ++ [line]) := by
  constructor
  · rw [List.pairwise_append]
    refine ⟨h.1, List.pairwise_singleton _ _, fun n hn m hm => ?_⟩
    rw [List.mem_singleton.mp hm]
    exact (h.2 n hn).2
  · intro n hn
    rcases List.mem_append.mp hn with hn | hn
    · have := h.2 n hn
      omega
    · rw [List.mem_singleton.mp hn]
      omega

/-- The line of the first declaration, or the given line if there is none. -/
def firstLine (ds : List Declaration) (next : Nat) : Nat :=
  (ds.head?.map Declaration.line).getD next

/-- A declaration on the line that was given takes nothing from what comes before. -/
theorem firstLine_concat (ds : List Declaration) (line next : Nat) (name : Text) :
    firstLine (ds ++ [⟨line, name⟩]) next = firstLine ds line := by
  cases ds <;> rfl

/-- With the given line the line of the first declaration can only grow. -/
theorem firstLine_le_firstLine (ds : List Declaration) {line line' : Nat} (hle : line ≤ line') :
    firstLine ds line ≤ firstLine ds line' := by
  cases ds with
  | nil => exact hle
  | cons x rest => exact Nat.le_refl _

/-! ## Names in the order of their first declaration -/

/-- A name counts at its first place only. -/
theorem eraseDups_concat (names : List Text) (name : Text) :
    (names ++ [name]).eraseDups =
      if name ∈ names.eraseDups then names.eraseDups else names.eraseDups ++ [name] := by
  rw [List.eraseDups_append]
  by_cases hmem : name ∈ names
  · rw [if_pos (List.mem_eraseDups.mpr hmem)]
    simp [hmem, List.removeAll]
  · rw [if_neg fun h => hmem (List.mem_eraseDups.mp h)]
    simp [hmem, List.removeAll, List.eraseDups_cons]

/-- Names that count at their first place only are distinct. -/
theorem nodup_eraseDups (names : List Text) : names.eraseDups.Nodup := by
  -- names are added at the end, which is not where lists are taken apart
  induction hlength : names.length generalizing names with
  | zero =>
    rw [List.length_eq_zero_iff.mp hlength]
    exact List.nodup_nil
  | succ n ih =>
    obtain rfl | ⟨front, last, rfl⟩ := List.eq_nil_or_concat names
    · cases hlength
    have hfront := ih front (by simpa using hlength)
    rw [List.concat_eq_append, eraseDups_concat]
    split
    · exact hfront
    · rename_i hnew
      rw [List.nodup_append]
      refine ⟨hfront, by simp, fun a ha b hb heq => hnew ?_⟩
      rw [← List.mem_singleton.mp hb, ← heq]
      exact ha

/-! ## The invariant -/

namespace Layout

/-- A scenario is the one of the last declaration of its name: its steps and its blocks come after
that declaration and before the next one. Only the last declaration may be without steps yet. -/
def Part.Placed (ds : List Declaration) (next : Nat) (p : Part) : Prop :=
  ∃ before after, ds = before ++ ⟨p.line, p.name⟩ :: after ∧
    p.name ∉ after.map Declaration.name ∧
    Between p.line (firstLine after next) p.steps ∧
    Between p.line (firstLine after next) p.blocks ∧ (after ≠ [] → p.steps ≠ [])

/-- What is known of a layout after the declarations of the lines up to the next one. -/
structure Attributed (ds : List Declaration) (next : Nat) (l : Layout) : Prop where
  /-- The scenarios are those that were declared, in the order of their first declarations. -/
  names : l.parts.map Part.name = (ds.map Declaration.name).eraseDups
  /-- The open scenario is the one that was declared last. -/
  openName : l.openName = ds.getLast?.map Declaration.name
  /-- Every scenario is that of its last declaration. -/
  parts : ∀ p ∈ l.parts, p.Placed ds next
  /-- The blocks of the feature come before the first declaration. -/
  blocks : Between 0 (firstLine ds next) l.blocks
  /-- The steps of the background come after the background and before the first declaration. -/
  background : ∀ b ∈ l.background, b.1 < next ∧ Between b.1 (firstLine ds next) b.2
  /-- The next line is below all declarations. -/
  lines : ∀ x ∈ ds, x.line < next
  /-- Lines are counted from one. -/
  pos : 0 < next

variable {ds : List Declaration} {line : Nat} {l l' : Layout}

/-- Attributed layouts have distinct names. -/
theorem Attributed.nodup (h : Attributed ds line l) : (l.parts.map Part.name).Nodup :=
  h.names ▸ nodup_eraseDups _

/-! ## One line -/

/-- A line that adds nothing keeps what is known of a scenario. -/
theorem Part.Placed.next {p : Part} (h : p.Placed ds line) : p.Placed ds (line + 1) := by
  obtain ⟨before, after, hds, hlast, hsteps, hblocks, hsome⟩ := h
  have hle := firstLine_le_firstLine after (Nat.le_succ line)
  exact ⟨before, after, hds, hlast, hsteps.mono hle, hblocks.mono hle, hsome⟩

/-- Dropping blocks keeps what is known of a scenario. -/
theorem Part.Placed.shrinks {p p' : Part} (h : p.Placed ds line) (hname : p'.name = p.name)
    (hline : p'.line = p.line) (hsteps : p'.steps = p.steps)
    (hblocks : p'.blocks.Sublist p.blocks) : p'.Placed ds line := by
  obtain ⟨before, after, hds, hlast, hsteps', hblocks', hsome⟩ := h
  rw [Part.Placed, hname, hline, hsteps]
  exact ⟨before, after, hds, hlast, hsteps', hblocks'.sublist hblocks, hsome⟩

/-- The scenario that was declared last is one of the last declaration. -/
theorem Part.Placed.of_getLast? {p : Part} (h : p.Placed ds line)
    (hlast : ds.getLast?.map Declaration.name = some p.name) :
    ∃ before, ds = before ++ [⟨p.line, p.name⟩] ∧ Between p.line line p.steps ∧
      Between p.line line p.blocks := by
  obtain ⟨before, after, hds, hnot, hsteps, hblocks, -⟩ := h
  obtain rfl | ⟨front, x, rfl⟩ := List.eq_nil_or_concat after
  · exact ⟨before, hds, hsteps, hblocks⟩
  · -- a later declaration would be the last one, so that the name would be declared again
    rw [hds, List.concat_eq_append, ← List.cons_append, ← List.append_assoc,
      List.getLast?_concat] at hlast
    obtain hname : x.name = p.name := by simpa using hlast
    exact absurd (by simp [hname]) hnot

/-- A step on the next line belongs to the scenario that was declared last. -/
theorem Part.Placed.withStep {p : Part} (h : p.Placed ds line)
    (hlast : ds.getLast?.map Declaration.name = some p.name) (hline : p.line < line) :
    (p.withStep line).Placed ds (line + 1) := by
  obtain ⟨before, hds, hsteps, hblocks⟩ := h.of_getLast? hlast
  exact ⟨before, [], hds, List.not_mem_nil, hsteps.concat hline, hblocks.mono (Nat.le_succ line),
    fun hne => absurd rfl hne⟩

/-- A block on the next line belongs to the scenario that was declared last. -/
theorem Part.Placed.withBlocks {p : Part} (h : p.Placed ds line)
    (hlast : ds.getLast?.map Declaration.name = some p.name) (hline : p.line < line) :
    (p.withBlocks [line]).Placed ds (line + 1) := by
  obtain ⟨before, hds, hsteps, hblocks⟩ := h.of_getLast? hlast
  exact ⟨before, [], hds, List.not_mem_nil, hsteps.mono (Nat.le_succ line), hblocks.concat hline,
    fun hne => absurd rfl hne⟩

/-- The declaration of a scenario is above the next line. -/
theorem Attributed.line_lt (h : Attributed ds line l) {p : Part} (hp : p ∈ l.parts) :
    p.line < line := by
  obtain ⟨before, after, hds, -⟩ := h.parts p hp
  exact h.lines ⟨p.line, p.name⟩ (by simp [hds])

/-- A line that adds nothing keeps what is known. -/
theorem Attributed.next (h : Attributed ds line l) : Attributed ds (line + 1) l where
  names := h.names
  openName := h.openName
  parts := fun p hp => (h.parts p hp).next
  blocks := h.blocks.mono (firstLine_le_firstLine ds (Nat.le_succ line))
  background := fun b hb => ⟨Nat.lt_succ_of_lt (h.background b hb).1,
    (h.background b hb).2.mono (firstLine_le_firstLine ds (Nat.le_succ line))⟩
  lines := fun x hx => Nat.lt_succ_of_lt (h.lines x hx)
  pos := Nat.succ_pos line

/-- Dropping blocks keeps what is known. -/
theorem Attributed.shrinks (h : Attributed ds line l) (hshrinks : l.Shrinks l') :
    Attributed ds line l' where
  names := hshrinks.names.trans h.names
  openName := hshrinks.openName.trans h.openName
  parts := by
    intro p' hp'
    obtain ⟨p, hp, hname, hline, hsteps, hblocks⟩ := hshrinks.parts p' hp'
    exact (h.parts p hp).shrinks hname hline hsteps hblocks
  blocks := h.blocks.sublist hshrinks.blocks
  background := hshrinks.background ▸ h.background
  lines := h.lines
  pos := h.pos

/-- A line that changes the open scenario only keeps what is known if the change does. -/
theorem Attributed.changeOpen (h : Attributed ds line l) (change : Part → Part)
    (hname : ∀ p, (change p).name = p.name)
    (hplaced : ∀ p ∈ l.parts, ds.getLast?.map Declaration.name = some p.name →
      (change p).Placed ds (line + 1)) : Attributed ds (line + 1) (l.changeOpen change) := by
  refine { h.next with names := ?_, parts := ?_ }
  · exact (map_name_changeOpen l change hname).trans h.names
  · intro p' hp'
    obtain ⟨p, hp, hcase⟩ := exists_of_mem_changeOpen hp'
    rcases hcase with ⟨hopen, rfl⟩ | ⟨-, rfl⟩
    · exact hplaced p hp (h.openName.symm.trans hopen)
    · exact h.next.parts p' hp

/-- While no scenario is open, none has been declared. -/
theorem Attributed.eq_nil (h : Attributed ds line l) (hnone : l.openName = none) : ds = [] := by
  have hlast := h.openName.symm.trans hnone
  simpa using hlast

/-- A line that opens no scenario adds its number where it belongs. -/
theorem Attributed.grows (h : Attributed ds line l) (hgrows : l.Grows line l') :
    Attributed ds (line + 1) l' := by
  cases hgrows with
  | same => exact h.next
  | step =>
    exact h.changeOpen (Part.withStep line) (fun _ => rfl) fun p hp hlast =>
      (h.parts p hp).withStep hlast (h.line_lt hp)
  | backgroundStep hnone =>
    -- nothing has been declared, so that the steps reach up to the next line
    obtain rfl := h.eq_nil hnone
    refine { h.next with background := ?_ }
    intro b' hb'
    obtain ⟨b, hb, rfl⟩ := Option.map_eq_some_iff.mp hb'
    obtain ⟨hlow, hsteps⟩ := h.background b hb
    exact ⟨Nat.lt_succ_of_lt hlow, hsteps.concat hlow⟩
  | background =>
    refine { h.next with background := ?_ }
    rintro b ⟨rfl⟩
    exact ⟨Nat.lt_succ_self line, between_nil _ _⟩
  | block hshrinks =>
    -- the block before is closed first, which may drop it
    have hclosed := h.shrinks hshrinks
    exact hclosed.changeOpen (Part.withBlocks [line]) (fun _ => rfl) fun p hp hlast =>
      (hclosed.parts p hp).withBlocks hlast (hclosed.line_lt hp)
  | featureBlock hnone hshrinks =>
    have hclosed := h.shrinks hshrinks
    obtain rfl := h.eq_nil hnone
    exact { hclosed.next with blocks := hclosed.blocks.concat h.pos }

/-- The scenario before the declaration of another one has its place. -/
theorem Part.Placed.concat {p : Part} {name : Text} (h : p.Placed ds line) (hname : p.name ≠ name)
    (hsteps : ds.getLast?.map Declaration.name = some p.name → p.steps ≠ []) :
    p.Placed (ds ++ [⟨line, name⟩]) (line + 1) := by
  obtain ⟨before, after, hds, hnot, hsteps', hblocks, hsome⟩ := h
  refine ⟨before, after ++ [⟨line, name⟩], by simp [hds], by simpa [hname] using hnot, ?_, ?_, ?_⟩
  · rw [firstLine_concat]
    exact hsteps'
  · rw [firstLine_concat]
    exact hblocks
  · intro _
    -- if this was the last declaration so far, it is followed by one from now on
    by_cases hafter : after = []
    · apply hsteps
      simp [hds, hafter]
    · exact hsome hafter

/-- A line that opens a scenario takes nothing from those before it. -/
theorem Attributed.opens {name : Text} (h : Attributed ds line l)
    (hsteps : ∀ p ∈ l.parts, l.openName = some p.name → p.steps ≠ [])
    (hopens : l.Opens name line l') : Attributed (ds ++ [⟨line, name⟩]) (line + 1) l' where
  names := by
    rw [hopens.names, h.names, List.map_append, List.map_singleton, eraseDups_concat]
  openName := by simp [hopens.openName]
  parts := by
    intro p hp
    rcases hopens.parts p hp with rfl | ⟨hold, hne⟩
    · -- the scenario that is declared has nothing below it yet
      exact ⟨ds, [], rfl, List.not_mem_nil, between_nil _ _, between_nil _ _,
        fun hne => absurd rfl hne⟩
    · refine (h.parts p hold).concat hne fun hlast => hsteps p hold ?_
      exact h.openName.trans hlast
  blocks := by
    rw [firstLine_concat, hopens.blocks]
    exact h.blocks
  background := by
    rw [firstLine_concat, hopens.background]
    exact fun b hb => ⟨Nat.lt_succ_of_lt (h.background b hb).1, (h.background b hb).2⟩
  lines := by
    intro x hx
    rcases List.mem_append.mp hx with hx | hx
    · exact Nat.lt_succ_of_lt (h.lines x hx)
    · rw [List.mem_singleton.mp hx]
      exact Nat.lt_succ_self line
  pos := Nat.succ_pos line

end Layout

/-! ## All lines -/

namespace Draft

/-- A line adds its declaration to those before it, and its number where it belongs. -/
theorem attributed_of_feed {ds : List Declaration} {line : Nat} {raw : Text} {d d' : Draft}
    (h : d.layout.Attributed ds line) (hfeed : d.feed line raw = .ok d') :
    d'.layout.Attributed (ds ++ d.declaredBy line raw) (line + 1) := by
  rw [declaredBy]
  rcases feed_cases hfeed with ⟨hcaptured, rfl⟩ | ⟨hfree, hblank, -, rfl⟩ | ⟨hfree, e, rfl, htaken⟩
  · rw [if_pos hcaptured, List.append_nil, layout_capture]
    exact h.next
  · -- what is left of a blank line begins with nothing
    have hname : declaredName? raw = none := by
      rw [declaredName?, hblank]
      rfl
    rw [if_neg (by simp [hfree]), hname, Option.toList_none, List.map_nil, List.append_nil]
    exact h.next
  · rw [if_neg (by simp [hfree])]
    rcases htaken.opens_or_grows h.nodup with
      ⟨name, l, hname, hshrinks, hsteps, hopens⟩ | ⟨hname, hgrows⟩
    · rw [hname]
      exact (h.shrinks hshrinks).opens hsteps hopens
    · rw [hname, Option.toList_none, List.map_nil, List.append_nil]
      exact h.grows hgrows

/-- After all lines everything is where it belongs. -/
theorem attributed_of_feedAll {ds : List Declaration} {line : Nat} {ls : List Text} {d d' : Draft}
    (h : d.layout.Attributed ds line) (hfeed : d.feedAll line ls = .ok d') :
    d'.layout.Attributed (ds ++ d.declarations line ls) (line + ls.length) := by
  induction ls generalizing ds line d with
  | nil =>
    obtain rfl := Except.ok.inj hfeed
    simpa [declarations] using h
  | cons raw rest ih =>
    obtain ⟨e, hfirst, hrest⟩ := exists_of_bind_eq_ok hfeed
    rw [declarations, hfirst, add_length_cons, ← List.append_assoc]
    exact ih (attributed_of_feed h hfirst) hrest

/-- Nothing belongs to a declaration before the first line. -/
theorem attributed_start (path relativePath : Path) :
    (start path relativePath).layout.Attributed [] 1 where
  names := rfl
  openName := rfl
  parts := fun p hp => absurd hp List.not_mem_nil
  blocks := between_nil _ _
  background := by
    rintro b ⟨⟩
  lines := fun x hx => absurd hx List.not_mem_nil
  pos := Nat.one_pos

/-- After the end of the document no block is being read. -/
theorem attributed_of_finish {ds : List Declaration} {line : Nat} {d d' : Draft}
    (h : d.layout.Attributed ds line) (hfinish : d.finish = .ok d') :
    d'.layout.Attributed ds line ∧ d'.scenarioBlock = none ∧ d'.featureBlock = none := by
  obtain ⟨closed, hclosed, hfinished⟩ := exists_of_bind_eq_ok hfinish
  obtain rfl := Except.ok.inj hfinished
  have hshrinks : ({ d with openStep := none } : Draft).layout.Shrinks closed.layout :=
    layout_closeBlocks hclosed
  obtain ⟨journal, rfl⟩ := closeBlocks_eq_ok hclosed
  exact ⟨h.shrinks hshrinks, rfl, rfl⟩

end Draft

/-! ## Features -/

/-- The scenarios that a document declares, as far as it can be read. -/
def declarations (t : Text) : List Declaration :=
  (Draft.start [] []).declarations 1 (Text.lines t)

/-- Every part of a feature belongs to the last declaration above it, given the declarations of
the document and the number of the line after its end. -/
structure Feature.Attributed (f : Feature) (ds : List Declaration) (next : Nat) : Prop where
  /-- The names of the scenarios are distinct. -/
  distinct : (f.scenarios.map Scenario.name).Nodup
  /-- The scenarios are in the order of the first declarations of their names. -/
  order : f.scenarios.map Scenario.name = (ds.map Declaration.name).eraseDups
  /-- A scenario is on the line of the last declaration of its name. Its steps and its blocks come
  after that line, and before the next declaration. If there is a next one, it has steps. -/
  scenarios : ∀ name ∈ ds.map Declaration.name, ∃ s before after,
    f.scenario? name = some s ∧ ds = before ++ ⟨s.line, name⟩ :: after ∧
    name ∉ after.map Declaration.name ∧
    Between s.line (firstLine after next) (s.steps.map Step.line) ∧
    Between s.line (firstLine after next) (s.examples.map ExampleBlock.line) ∧
    (after ≠ [] → s.steps ≠ [])
  /-- The blocks of the feature come before the first declaration. -/
  blocks : Between 0 (firstLine ds next) (f.examples.map ExampleBlock.line)
  /-- The steps of the background come after the background and before the first declaration. -/
  background : ∀ b ∈ f.background, Between b.line (firstLine ds next) (b.steps.map Step.line)

/-- When no block is being read, what is known of the layout is known of the feature. -/
theorem Feature.attributed_of_layout {d : Draft} {ds : List Declaration} {next : Nat}
    (h : d.layout.Attributed ds next) (hscenarioBlock : d.scenarioBlock = none)
    (hfeatureBlock : d.featureBlock = none) : d.feature.Attributed ds next := by
  have hnames := Draft.map_name_layout d
  have hdistinct : (d.feature.scenarios.map Scenario.name).Nodup := hnames ▸ h.nodup
  have horder := hnames.symm.trans h.names
  refine ⟨hdistinct, horder, ?_, ?_, ?_⟩
  · intro name hname
    rw [← List.mem_eraseDups, ← horder] at hname
    obtain ⟨s, hs, rfl⟩ := List.mem_map.mp hname
    obtain ⟨before, after, hds, hlast, hsteps, hblocks, hsome⟩ :=
      h.parts (d.partOf s) (List.mem_map_of_mem hs)
    -- the blocks of the part are those of the scenario and no more
    have hread : d.readBlock s.name = [] := by simp [Draft.readBlock, hscenarioBlock]
    refine ⟨s, before, after, Feature.scenario?_of_mem hdistinct hs, hds, hlast, hsteps, ?_, ?_⟩
    · simpa [Draft.partOf, hread] using hblocks
    · simpa [Draft.partOf] using hsome
  · simpa [Draft.layout, hfeatureBlock] using h.blocks
  · intro b hb
    exact (h.background _ (Option.map_eq_some_iff.mpr ⟨b, hb, rfl⟩)).2

/-- In the feature of a document every part belongs to the last declaration above it. -/
theorem Feature.attributed_of_parse {t : Text} {f : Feature} (h : parse t = .ok f) :
    f.Attributed (declarations t) (1 + (Text.lines t).length) := by
  unfold parse readDocument at h
  split at h
  · rename_i d hread
    obtain rfl := Except.ok.inj h
    obtain ⟨e, hfeed, hfinish⟩ := exists_of_bind_eq_ok hread
    have hlines := Draft.attributed_of_feedAll (Draft.attributed_start [] []) hfeed
    obtain ⟨hlayout, hscenarioBlock, hfeatureBlock⟩ := Draft.attributed_of_finish hlines hfinish
    exact Feature.attributed_of_layout hlayout hscenarioBlock hfeatureBlock
  · cases h

/-- A document with a block and a background before the scenarios, a scenario that is declared
twice, and a step that captures a line which looks like a declaration. -/
theorem Feature.attributed_of_redeclaration : ∃ f, parse (Text.unlines
      ["Feature: F", "Examples:", "| a |", "| 1 |", "Background:", "Given x", "Scenario: A",
        "When y", "  Scenario: C", "Examples:", "| b |", "| 1 |", "Scenario: B", "When z",
        "Scenario: A", "Then w"]) = .ok f ∧
      f.Attributed [⟨7, "A"⟩, ⟨13, "B"⟩, ⟨15, "A"⟩] 17 :=
  Exists.imp (fun _ h => ⟨h, attributed_of_parse h⟩) ⟨_, rfl⟩

end FeatureDoc
