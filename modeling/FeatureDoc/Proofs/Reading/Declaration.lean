/-
# The declarations of a document

A line declares a scenario if no step captures it and what is left of it without its comment
begins with `Scenario: ` or `Scenario Outline: `. This module reads the declarations off the lines
of a document and shows that they are the lines that the draft takes for such.

* `declaredName?_eq` : the kind of a line says whether it can declare a scenario, and of what name;
* `Draft.Taken.opens_or_declares_none` : the draft opens a scenario for the lines that declare one
  and for no others.
-/
import FeatureDoc.Proofs.Reading.Taken

namespace FeatureDoc

/-- The place and the name of a scenario in a document. -/
structure Declaration where
  /-- The number of the line. -/
  line : Nat
  /-- The name of the scenario. -/
  name : Text
deriving DecidableEq

/-- The name that a line gives to a scenario, unless a step captures the line. -/
def declaredName? (raw : Text) : Option Text :=
  let clean := Line.stripComment raw
  ((Text.after? "Scenario: " clean).or (Text.after? "Scenario Outline: " clean)).map Text.trim

/-- A line that is taken apart by one of the beginnings has the kind of that beginning. -/
theorem kind_of_classifyBy? {clean : Text} {lead : Text × Line.Kind} {c : Line.Classified}
    (h : Line.classifyBy? clean lead = some c) : c.kind = some lead.2 := by
  obtain ⟨rest, -, rfl⟩ := Option.map_eq_some_iff.mp h
  rfl

/-- Two beginnings declare scenarios. -/
theorem lead_of_isScenario : ∀ lead ∈ Line.leads, lead.2.isScenario = true →
    lead.1 = "Scenario: ".toList ∨ lead.1 = "Scenario Outline: ".toList := by
  decide

/-- A line without the beginnings of a scenario is of another kind. -/
theorem isScenario_classify_of_none {clean : Text}
    (hscenario : Text.after? "Scenario: " clean = none)
    (houtline : Text.after? "Scenario Outline: " clean = none) :
    (Line.classify clean).kind.any Line.Kind.isScenario = false := by
  unfold Line.classify
  cases hfound : Line.leads.findSome? (Line.classifyBy? clean) with
  | none => rfl
  | some c =>
    obtain ⟨lead, hlead, hc⟩ := List.exists_of_findSome?_eq_some hfound
    rw [Option.getD_some, kind_of_classifyBy? hc, Option.any_some]
    cases hkind : lead.2.isScenario with
    | false => rfl
    | true =>
      rcases lead_of_isScenario lead hlead hkind with heq | heq
      · rw [Line.classifyBy?, heq, hscenario] at hc
        cases hc
      · rw [Line.classifyBy?, heq, houtline] at hc
        cases hc

/-- The kind of a line says whether it gives a name to a scenario, and its text is that name. -/
theorem declaredName?_eq (raw : Text) : declaredName? raw =
    let c := Line.classify (Line.stripComment raw)
    if c.kind.any Line.Kind.isScenario then some c.text else none := by
  unfold declaredName?
  simp only
  cases hscenario : Text.after? "Scenario: " (Line.stripComment raw) with
  | some rest =>
    rw [Text.after?_eq_some_iff.mp hscenario]
    rfl
  | none =>
    cases houtline : Text.after? "Scenario Outline: " (Line.stripComment raw) with
    | some rest =>
      rw [Text.after?_eq_some_iff.mp houtline]
      rfl
    | none =>
      rw [isScenario_classify_of_none hscenario houtline]
      rfl

namespace Draft

/-- The declaration that a line makes: none if a step captures it. -/
def declaredBy (d : Draft) (line : Nat) (raw : Text) : List Declaration :=
  if d.captures raw then [] else (declaredName? raw).toList.map fun name => ⟨line, name⟩

/-- The declarations that lines make from the given number on, up to the first fault. -/
def declarations (d : Draft) (line : Nat) : List Text → List Declaration
  | [] => []
  | raw :: rest => d.declaredBy line raw ++
    match d.feed line raw with
    | .ok e => e.declarations (line + 1) rest
    | .error _ => []

/-- A line that is taken up declares a scenario exactly if it closes the blocks and opens one. -/
theorem Taken.opens_or_declares_none {d d' : Draft} {line : Nat} {raw : Text}
    (h : Taken d line raw (Line.stripComment raw) (Line.classify (Line.stripComment raw)) d') :
    (∃ closed name keyword, declaredName? raw = some name ∧
      (d.enter .scenario).closeBlocks = .ok closed ∧ closed.stepless? = none ∧
      d' = closed.openScenario (.declared name keyword line closed.precedingTags)) ∨
    declaredName? raw = none := by
  rw [declaredName?_eq]
  simp only
  generalize Line.classify (Line.stripComment raw) = c at h ⊢
  cases h with
  | scenario closed hkind hclosed hsteps =>
    refine Or.inl ⟨closed, c.text, c.keyword, ?_, hclosed, hsteps, rfl⟩
    rcases hkind with hkind | hkind <;> simp [hkind, Line.Kind.isScenario]
  | _ => exact Or.inr (by grind [Line.Kind.isScenario])

end Draft

end FeatureDoc
