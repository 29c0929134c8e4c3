/-
# Features

A feature is what a document describes: scenarios in the order of their first declaration, a
background whose steps come before those of every scenario, and example blocks that hold for all
scenarios. Scenarios are told apart by their names.
-/
import FeatureDoc.Feature.Step
import FeatureDoc.Feature.Examples
import FeatureDoc.Path.Basic

namespace FeatureDoc

/-- A scenario. -/
structure Scenario where
  name : Text
  /-- The number of the line that declares it. -/
  line : Nat
  /-- The keyword that declares it. -/
  keyword : Text
  /-- Its own tags, in increasing order. -/
  tags : List Text
  description : Text
  /-- Its own steps. -/
  steps : List Step
  /-- Its own example blocks. -/
  examples : List ExampleBlock

/-- A background: steps that come before those of every scenario. -/
structure Background where
  /-- The number of the line that declares it. -/
  line : Nat
  description : Text
  steps : List Step

/-- What a document describes. -/
structure Feature where
  name : Option Text
  /-- The tags of the feature, in increasing order. -/
  tags : List Text
  description : Text
  /-- The absolute path of the document; empty for one that is not read from a file. -/
  path : Path
  /-- The path under which the document was asked for. -/
  relativePath : Path
  /-- The number of the line that names the feature. -/
  line : Nat
  scenarios : List Scenario
  background : Option Background
  /-- The example blocks that hold for all scenarios. -/
  examples : List ExampleBlock

/-- A text with one more line at its end. -/
def appendLine (t line : Text) : Text := if t = [] then line else t ++ '\n' :: line

namespace Scenario

/-- A scenario that has just been declared. -/
def declared (name keyword : Text) (line : Nat) (tags : List Text) : Scenario :=
  { name, line, keyword, tags, description := [], steps := [], examples := [] }

end Scenario

namespace Background

/-- A background that has just been declared. -/
def declared (line : Nat) : Background := { line, description := [], steps := [] }

end Background

namespace Feature

/-- The feature of an empty document. -/
def empty (path relativePath : Path) : Feature :=
  { name := none, tags := [], description := [], path, relativePath, line := 1, scenarios := [],
    background := none, examples := [] }

/-- The path of the document as messages show it. -/
def pathLabel (f : Feature) : Text := if f.path = [] then "<memory>" else f.path.display

/-- The scenario of a name. -/
def scenario? (f : Feature) (name : Text) : Option Scenario :=
  f.scenarios.find? fun s => s.name = name

/-- Puts a scenario in the place of the one with its name, or else at the end. -/
def putScenario (s : Scenario) : List Scenario → List Scenario
  | [] => [s]
  | other :: rest => if other.name = s.name then s :: rest else other :: putScenario s rest

/-- Changes the scenarios of a name. -/
def updateScenario (f : Feature) (name : Text) (change : Scenario → Scenario) : Feature :=
  { f with scenarios := f.scenarios.map fun s => if s.name = name then change s else s }

/-- Changes the background, if there is one. -/
def updateBackground (f : Feature) (change : Background → Background) : Feature :=
  { f with background := f.background.map change }

/-! ## Looking scenarios up -/

/-- A scenario that is found has the name that was asked for. -/
theorem name_of_scenario? {f : Feature} {name : Text} {s : Scenario}
    (h : f.scenario? name = some s) : s.name = name := by
  have hfound := List.find?_some h
  simpa using hfound

/-- A scenario that is found is one of the feature. -/
theorem mem_of_scenario? {f : Feature} {name : Text} {s : Scenario}
    (h : f.scenario? name = some s) : s ∈ f.scenarios :=
  List.mem_of_find?_eq_some h

/-- Among scenarios of distinct names each is found by its name. -/
theorem scenario?_of_mem {f : Feature} {s : Scenario}
    (hdistinct : (f.scenarios.map Scenario.name).Nodup) (h : s ∈ f.scenarios) :
    f.scenario? s.name = some s := by
  unfold scenario?
  induction hss : f.scenarios generalizing f with
  | nil => simp [hss] at h
  | cons other rest ih =>
    rw [hss] at h hdistinct
    obtain ⟨hother, hrest⟩ := List.nodup_cons.mp hdistinct
    rcases List.mem_cons.mp h with rfl | hmem
    · simp
    · have hne : other.name ≠ s.name := fun hname => hother (hname ▸ List.mem_map_of_mem hmem)
      rw [List.find?_cons_of_neg (by simpa using hne)]
      exact ih (f := { f with scenarios := rest }) hrest hmem rfl

/-- There is a scenario of a name exactly when the name is that of one of the scenarios. -/
theorem scenario?_isSome_iff {f : Feature} {name : Text} :
    (∃ s, f.scenario? name = some s) ↔ name ∈ f.scenarios.map Scenario.name := by
  rw [← Option.isSome_iff_exists, scenario?, List.find?_isSome]
  simp

/-- Putting a scenario in adds its name at the end, unless it is there already. -/
theorem map_name_putScenario (s : Scenario) (ss : List Scenario) :
    (putScenario s ss).map Scenario.name =
      if s.name ∈ ss.map Scenario.name then ss.map Scenario.name
      else ss.map Scenario.name ++ [s.name] := by
  induction ss with
  | nil => simp [putScenario]
  | cons other rest ih =>
    by_cases h : other.name = s.name
    · simp [putScenario, h]
    · have hne : s.name ≠ other.name := fun heq => h heq.symm
      rw [putScenario, if_neg h, List.map_cons, ih, List.map_cons]
      by_cases hrest : s.name ∈ rest.map Scenario.name
      · rw [if_pos hrest, if_pos (List.mem_cons_of_mem _ hrest)]
      · rw [if_neg hrest, if_neg (by simp [hne]; simpa using hrest), List.cons_append]

/-- After putting a scenario in, the scenarios are that one and those of other names. -/
theorem mem_putScenario {s t : Scenario} {ss : List Scenario}
    (hdistinct : (ss.map Scenario.name).Nodup) (h : t ∈ putScenario s ss) :
    t = s ∨ (t ∈ ss ∧ t.name ≠ s.name) := by
  induction ss with
  | nil =>
    left
    simpa [putScenario] using h
  | cons other rest ih =>
    obtain ⟨hother, hrest⟩ := List.nodup_cons.mp hdistinct
    by_cases hsame : other.name = s.name
    · rw [putScenario, if_pos hsame] at h
      rcases List.mem_cons.mp h with rfl | hmem
      · exact Or.inl rfl
      · refine Or.inr ⟨List.mem_cons_of_mem _ hmem, fun hname => hother ?_⟩
        rw [hsame, ← hname]
        exact List.mem_map_of_mem hmem
    · rw [putScenario, if_neg hsame] at h
      rcases List.mem_cons.mp h with rfl | hmem
      · exact Or.inr ⟨List.mem_cons_self, hsame⟩
      · rcases ih hrest hmem with rfl | ⟨hmem', hne⟩
        · exact Or.inl rfl
        · exact Or.inr ⟨List.mem_cons_of_mem _ hmem', hne⟩

/-- Scenarios with one more put in are that one and those of before. -/
theorem eq_or_mem_of_mem_putScenario {s t : Scenario} {ss : List Scenario}
    (h : t ∈ putScenario s ss) : t = s ∨ t ∈ ss := by
  induction ss with
  | nil => exact Or.inl (List.mem_singleton.mp h)
  | cons other rest ih =>
    rw [putScenario] at h
    split at h
    · exact (List.mem_cons.mp h).imp_right (List.mem_cons_of_mem other)
    · rcases List.mem_cons.mp h with rfl | hrest
      · exact Or.inr List.mem_cons_self
      · exact (ih hrest).imp_right (List.mem_cons_of_mem other)

/-- A scenario of a new name is put at the end. -/
theorem putScenario_of_notMem {s : Scenario} {ss : List Scenario}
    (hnew : s.name ∉ ss.map Scenario.name) : putScenario s ss = ss ++ [s] := by
  induction ss with
  | nil => rfl
  | cons other rest ih =>
    obtain ⟨hother, hrest⟩ := not_or.mp (mt List.mem_cons.mpr hnew)
    rw [putScenario, if_neg fun h => hother h.symm, ih hrest, List.cons_append]

/-- The last scenario is found if its name is new. -/
theorem scenario?_of_eq_concat {f : Feature} {ss : List Scenario} {s : Scenario}
    (h : f.scenarios = ss ++ [s]) (hnew : s.name ∉ ss.map Scenario.name) :
    f.scenario? s.name = some s := by
  have hnone : ss.find? (fun t => t.name = s.name) = none := by
    rw [List.find?_eq_none]
    intro t ht heq
    have hname : t.name = s.name := by simpa using heq
    exact hnew (hname ▸ List.mem_map_of_mem ht)
  rw [scenario?, h, List.find?_append, hnone]
  simp

/-- A change of the last scenario changes no other one if its name is new. -/
theorem updateScenario_of_eq_concat {f : Feature} {ss : List Scenario} {s : Scenario}
    (h : f.scenarios = ss ++ [s]) (hnew : s.name ∉ ss.map Scenario.name)
    (change : Scenario → Scenario) :
    f.updateScenario s.name change = { f with scenarios := ss ++ [change s] } := by
  have hothers : ss.map (fun t => if t.name = s.name then change t else t) = ss := by
    refine (List.map_congr_left fun t ht => ?_).trans (List.map_id ss)
    have hname : ¬t.name = s.name := fun heq => hnew (heq ▸ List.mem_map_of_mem ht)
    rw [if_neg hname, id]
  simp only [updateScenario, h, List.map_append, hothers, List.map_singleton, if_true]

/-- What a change of some scenarios keeps of them is kept of all scenarios. -/
theorem map_updateScenario {α : Type} (f : Feature) (name : Text) {change : Scenario → Scenario}
    {part : Scenario → α} (h : ∀ s, part (change s) = part s) :
    (f.updateScenario name change).scenarios.map part = f.scenarios.map part := by
  rw [updateScenario, List.map_map]
  apply List.map_congr_left
  intro s _
  by_cases hname : s.name = name <;> simp [hname, h]

/-- A change of the scenarios of a name is seen when that name is looked up. -/
theorem scenario?_updateScenario_self (f : Feature) (name : Text) {change : Scenario → Scenario}
    (hname : ∀ s, (change s).name = s.name) :
    (f.updateScenario name change).scenario? name = (f.scenario? name).map change := by
  have hcomp : ((fun s : Scenario => decide (s.name = name)) ∘
      fun s : Scenario => if s.name = name then change s else s) =
        fun s : Scenario => decide (s.name = name) := by
    funext s
    by_cases h : s.name = name <;> simp [h, hname]
  rw [scenario?, updateScenario, List.find?_map, hcomp, scenario?]
  cases hfound : f.scenarios.find? (fun s => decide (s.name = name)) with
  | none => rfl
  | some s =>
    have hsame : s.name = name := by simpa using List.find?_some hfound
    simp [hsame]

/-- A change of the scenarios of a name is not seen when another name is looked up. -/
theorem scenario?_updateScenario_of_ne (f : Feature) {name other : Text} (h : other ≠ name)
    {change : Scenario → Scenario} (hname : ∀ s, (change s).name = s.name) :
    (f.updateScenario name change).scenario? other = f.scenario? other := by
  have hcomp : ((fun s : Scenario => decide (s.name = other)) ∘
      fun s : Scenario => if s.name = name then change s else s) =
        fun s : Scenario => decide (s.name = other) := by
    funext s
    by_cases hs : s.name = name <;> simp [hs, hname]
  rw [scenario?, updateScenario, List.find?_map, hcomp, scenario?]
  cases hfound : f.scenarios.find? (fun s => decide (s.name = other)) with
  | none => rfl
  | some s =>
    have hother : s.name = other := by simpa using List.find?_some hfound
    have hne : ¬s.name = name := fun hs => h (hother.symm.trans hs)
    simp [hne]

/-- A scenario that is put in is found under its name. -/
theorem scenario?_putScenario_self (f : Feature) (s : Scenario) :
    { f with scenarios := putScenario s f.scenarios }.scenario? s.name = some s := by
  show (putScenario s f.scenarios).find? _ = _
  induction f.scenarios with
  | nil => simp [putScenario]
  | cons other rest ih =>
    rw [putScenario]
    split
    · simp
    · rename_i hother
      rw [List.find?_cons_of_neg (by simpa using hother), ih]

/-- Putting a scenario in does not change what is found under another name. -/
theorem scenario?_putScenario_of_ne (f : Feature) {s : Scenario} {name : Text}
    (h : name ≠ s.name) :
    { f with scenarios := putScenario s f.scenarios }.scenario? name = f.scenario? name := by
  have hs : ¬s.name = name := fun heq => h heq.symm
  show (putScenario s f.scenarios).find? _ = f.scenarios.find? _
  induction f.scenarios with
  | nil => simpa [putScenario] using hs
  | cons other rest ih =>
    rw [putScenario]
    split
    · rename_i hother
      rw [List.find?_cons_of_neg (by simpa using hs),
        List.find?_cons_of_neg (by simpa [hother] using hs)]
    · rw [List.find?_cons, List.find?_cons, ih]

/-- The steps of the background. -/
def backgroundSteps (f : Feature) : List Step :=
  match f.background with
  | some b => b.steps
  | none => []

/-- The steps that a scenario runs: those of the background, then its own. -/
def stepsOf (f : Feature) (s : Scenario) : List Step := f.backgroundSteps ++ s.steps

/-- The tags that hold for a scenario: its own and those of the feature, in increasing order. -/
def tagsOf (f : Feature) (s : Scenario) : List Text := Text.sortedSet (s.tags ++ f.tags)

end Feature

end FeatureDoc
