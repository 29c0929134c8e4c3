/-
# What a line does to a draft

Every theorem about reading looks at one line at a time. This module says once what a line can
do, so that no other proof takes `Draft.feed` apart.

* `Draft.feed_cases` : a line that causes no fault is captured by the open step, skipped, or taken
  up, and `Draft.Taken` lists the ways in which it can be taken up;
* `Draft.feedAll_induction`, `Draft.feedAll_induction_lines` : what every line keeps holds after
  all lines.
-/
import FeatureDoc.Proofs.Reading.Parts

namespace FeatureDoc

namespace Draft

/-! ## Lines that are taken up -/

/-- The ways in which a line is taken up: what the draft becomes, and the mode or kind of line
that makes it so. -/
inductive Taken (d : Draft) (line : Nat) (raw clean : Text) (c : Line.Classified) : Draft → Prop
  /-- The line names the feature. -/
  | named (hlast : d.lastMode = none ∨ d.lastMode = some .tag) (hname : d.feature.name = none)
      (hkind : c.kind = some .feature ∨ (c.kind = none ∧ d.mode = some .feature)) :
      Taken d line raw clean c { d.enter .feature with
        feature := { d.feature with name := some c.text, line, tags := d.precedingTags } }
  /-- The line describes the feature. -/
  | prose (hlast : d.lastMode = some .feature)
      (hkind : c.kind = some .feature ∨ (c.kind = none ∧ d.mode = some .feature)) :
      Taken d line raw clean c { d.enter .feature with prose := d.prose ++ [clean] }
  /-- The line declares a scenario. -/
  | scenario (closed : Draft) (hkind : c.kind = some .scenario ∨ c.kind = some .scenarioOutline)
      (hclosed : (d.enter .scenario).closeBlocks = .ok closed) (hsteps : closed.stepless? = none) :
      Taken d line raw clean c
        (closed.openScenario (.declared c.text c.keyword line closed.precedingTags))
  /-- The line describes the open scenario. -/
  | scenarioProse (hkind : c.kind = none) (hmode : d.mode = some .scenario) :
      Taken d line raw clean c ((d.enter .scenario).describeScenario clean)
  /-- The line declares a background. -/
  | background (hkind : c.kind = some .background) :
      Taken d line raw clean c ((d.enter .background).declareBackground line)
  /-- The line describes the background. -/
  | backgroundProse (hkind : c.kind = none) (hmode : d.mode = some .background) :
      Taken d line raw clean c ((d.enter .background).describeBackground clean)
  /-- The line opens a horizontal block. -/
  | examples (d' : Draft)
      (hkind : c.kind = some .examples ∨ (c.kind = none ∧ d.mode = some .examples))
      (hopened : (d.enter .examples).declareExamples line .horizontal = .ok d') :
      Taken d line raw clean c d'
  /-- The line opens a vertical block. -/
  | verticalExamples (d' : Draft)
      (hkind : c.kind = some .verticalExamples ∨
        (c.kind = none ∧ d.mode = some .verticalExamples))
      (hopened : (d.enter .verticalExamples).declareExamples line .vertical = .ok d') :
      Taken d line raw clean c d'
  /-- The line is the header of a horizontal block. -/
  | header (hkind : c.kind = none) (hmode : d.mode = some .header) :
      Taken d line raw clean c ((d.enter .header).addHeader c.text)
  /-- The line is a row of a horizontal block. -/
  | row (d' : Draft) (hkind : c.kind = none) (hmode : d.mode = some .row)
      (hadded : (d.enter .row).addRow line (Text.trim raw) = .ok d') :
      Taken d line raw clean c d'
  /-- The line is a column of a vertical block. -/
  | column (d' : Draft) (hkind : c.kind = none) (hmode : d.mode = some .column)
      (hadded : (d.enter .column).addColumn line (Text.trim raw) = .ok d') :
      Taken d line raw clean c d'
  /-- The line is a step, by its own keyword or because the line before it was one. -/
  | step (type : StepType) (d' : Draft)
      (hkind : c.kind = some (.step type) ∨
        ((c.kind = some .continuation ∨ c.kind = none) ∧ d.mode = some (.step type)))
      (hadded : d.declareStep line raw clean type c = .ok d') :
      Taken d line raw clean c d'
  /-- The line holds tags, or follows them and means nothing. -/
  | tag (hkind : c.kind = some .tag ∨ (c.kind = none ∧ d.mode = some .tag)) :
      Taken d line raw clean c (d.enter .tag)
  /-- The line comes before every declaration and means nothing. -/
  | nothing (hkind : c.kind = none) (hmode : d.mode = none) :
      Taken d line raw clean c { d with lastMode := none }

/-- A line of the feature names it or describes it. -/
theorem taken_of_takeFeatureLine {d d' : Draft} {line : Nat} {raw clean : Text}
    {c : Line.Classified}
    (hkind : c.kind = some .feature ∨ (c.kind = none ∧ d.mode = some .feature))
    (h : d.takeFeatureLine line clean c = .ok d') : Taken d line raw clean c d' := by
  -- at the beginning and below tags alike, the line is the one that names the feature
  have hnamed : (d.lastMode = none ∨ d.lastMode = some .tag) →
      (if d.feature.name = none then Except.ok { d.enter .feature with
        feature := { d.feature with name := some c.text, line, tags := d.precedingTags } }
      else d.fail line (.misplaced .secondFeature clean)) = Except.ok d' →
      Taken d line raw clean c d' := by
    intro hlast hok
    split at hok
    · rename_i hname
      obtain rfl := Except.ok.inj hok
      exact .named hlast hname hkind
    · exact absurd hok (fail_ne_ok _ _ _ _)
  unfold takeFeatureLine at h
  simp only at h
  split at h
  · rename_i hlast
    exact hnamed (Or.inl hlast) h
  · rename_i hlast
    exact hnamed (Or.inr hlast) h
  · rename_i hlast
    obtain rfl := Except.ok.inj h
    exact .prose hlast hkind
  · exact absurd h (fail_ne_ok _ _ _ _)

/-- A line that declares a scenario closes the blocks and opens the scenario. -/
theorem taken_of_declareScenario {d d' : Draft} {line : Nat} {raw clean : Text}
    {c : Line.Classified} (hkind : c.kind = some .scenario ∨ c.kind = some .scenarioOutline)
    (h : (d.enter .scenario).declareScenario line clean c = .ok d') :
    Taken d line raw clean c d' := by
  obtain ⟨closed, hclosed, hopen⟩ := exists_of_bind_eq_ok h
  split at hopen
  · exact absurd hopen (fail_ne_ok _ _ _ _)
  · rename_i hsteps
    obtain rfl := Except.ok.inj hopen
    exact .scenario closed hkind hclosed hsteps

/-- A plain line is taken up as the mode says. -/
theorem taken_of_takePlainLine {d d' : Draft} {line : Nat} {raw clean : Text}
    {c : Line.Classified} (hkind : c.kind = none)
    (h : d.takePlainLine line raw clean c = .ok d') : Taken d line raw clean c d' := by
  unfold takePlainLine at h
  split at h
  · rename_i hmode
    obtain rfl := Except.ok.inj h
    exact .nothing hkind hmode
  · rename_i hmode
    obtain rfl := Except.ok.inj h
    exact .tag (Or.inr ⟨hkind, hmode⟩)
  · rename_i hmode
    exact taken_of_takeFeatureLine (Or.inr ⟨hkind, hmode⟩) h
  · rename_i hmode
    obtain rfl := Except.ok.inj h
    exact .scenarioProse hkind hmode
  · rename_i hmode
    obtain rfl := Except.ok.inj h
    exact .backgroundProse hkind hmode
  · rename_i hmode
    exact .examples d' (Or.inr ⟨hkind, hmode⟩) h
  · rename_i hmode
    exact .verticalExamples d' (Or.inr ⟨hkind, hmode⟩) h
  · rename_i hmode
    obtain rfl := Except.ok.inj h
    exact .header hkind hmode
  · rename_i hmode
    exact .row d' hkind hmode h
  · rename_i hmode
    exact .column d' hkind hmode h
  · rename_i type hmode
    exact .step type d' (Or.inr ⟨Or.inr hkind, hmode⟩) h

/-- A line that causes no fault is taken up in one of the ways. -/
theorem taken_of_declare {d d' : Draft} {line : Nat} {raw clean : Text} {c : Line.Classified}
    (h : d.declare line raw clean c = .ok d') : Taken d line raw clean c d' := by
  unfold declare at h
  split at h
  · rename_i hkind
    exact taken_of_takeFeatureLine (Or.inl hkind) h
  · rename_i hkind
    exact taken_of_declareScenario (Or.inl hkind) h
  · rename_i hkind
    exact taken_of_declareScenario (Or.inr hkind) h
  · rename_i hkind
    obtain rfl := Except.ok.inj h
    exact .background hkind
  · rename_i hkind
    exact .examples d' (Or.inl hkind) h
  · rename_i hkind
    exact .verticalExamples d' (Or.inl hkind) h
  · rename_i type hkind
    exact .step type d' (Or.inl hkind) h
  · rename_i hkind
    obtain rfl := Except.ok.inj h
    exact .tag (Or.inl hkind)
  · rename_i hkind
    split at h
    · rename_i type hmode
      exact .step type d' (Or.inr ⟨Or.inl hkind, hmode⟩) h
    · exact absurd h (fail_ne_ok _ _ _ _)
  · rename_i hkind
    exact taken_of_takePlainLine hkind h

/-- Conversely, a line that can be taken up in one of the ways causes no fault. -/
theorem Taken.declare_eq {d d' : Draft} {line : Nat} {raw clean : Text} {c : Line.Classified}
    (h : Taken d line raw clean c d') : d.declare line raw clean c = .ok d' := by
  -- a line of the feature is taken up in the same way by its kind and by the mode
  have hfeature : c.kind = some .feature ∨ (c.kind = none ∧ d.mode = some .feature) →
      d.takeFeatureLine line clean c = .ok d' → d.declare line raw clean c = .ok d' := by
    rintro (hkind | ⟨hkind, hmode⟩) hok
    · rw [declare, hkind]
      exact hok
    · rw [declare, hkind]
      simp only [takePlainLine, hmode]
      exact hok
  cases h with
  | named hlast hname hkind =>
    refine hfeature hkind ?_
    rcases hlast with hlast | hlast <;> simp [takeFeatureLine, hlast, hname]
  | prose hlast hkind =>
    refine hfeature hkind ?_
    simp [takeFeatureLine, hlast]
  | scenario closed hkind hclosed hsteps =>
    rcases hkind with hkind | hkind <;> rw [declare, hkind] <;>
    · simp only [declareScenario, hclosed, bind, Except.bind, hsteps]
      rfl
  | scenarioProse hkind hmode => simp [declare, takePlainLine, hkind, hmode]
  | background hkind => rw [declare, hkind]
  | backgroundProse hkind hmode => simp [declare, takePlainLine, hkind, hmode]
  | examples _ hkind hopened =>
    rcases hkind with hkind | ⟨hkind, hmode⟩
    · rw [declare, hkind]
      exact hopened
    · simpa [declare, takePlainLine, hkind, hmode] using hopened
  | verticalExamples _ hkind hopened =>
    rcases hkind with hkind | ⟨hkind, hmode⟩
    · rw [declare, hkind]
      exact hopened
    · simpa [declare, takePlainLine, hkind, hmode] using hopened
  | header hkind hmode => simp [declare, takePlainLine, hkind, hmode]
  | row _ hkind hmode hadded => simpa [declare, takePlainLine, hkind, hmode] using hadded
  | column _ hkind hmode hadded => simpa [declare, takePlainLine, hkind, hmode] using hadded
  | step type _ hkind hadded =>
    rcases hkind with hkind | ⟨hkind | hkind, hmode⟩
    · rw [declare, hkind]
      exact hadded
    · simpa [declare, hkind, hmode] using hadded
    · simpa [declare, takePlainLine, hkind, hmode] using hadded
  | tag hkind =>
    rcases hkind with hkind | ⟨hkind, hmode⟩
    · rw [declare, hkind]
    · simp [declare, takePlainLine, hkind, hmode]
  | nothing hkind hmode => simp [declare, takePlainLine, hkind, hmode]

/-- The draft that takes a line up: no step is open any more, and the line is made known. -/
def beforeTaking (d : Draft) (line : Nat) (raw : Text) : Draft :=
  let clean := Line.stripComment raw
  d.release.note .trace (lineMessage line clean (Line.classify clean))

/-- A line that is captured causes no fault. -/
theorem eq_capture_of_feed {d d' : Draft} {line : Nat} {raw : Text}
    (hcaptured : d.captures raw = true) (h : d.feed line raw = .ok d') : d' = d.capture raw := by
  rw [feed, if_pos hcaptured] at h
  exact (Except.ok.inj h).symm

/-- A line that causes no fault and is not captured is skipped or taken up; a blank line or a
comment is taken up only if it describes the feature. -/
theorem feed_cases_of_free {d d' : Draft} {line : Nat} {raw : Text}
    (hfree : d.captures raw = false) (h : d.feed line raw = .ok d') :
    (Line.stripComment raw = [] ∧ d.lastMode ≠ some .feature ∧ d' = d.release) ∨
      ((Line.stripComment raw = [] → d.lastMode = some .feature) ∧
        ∃ e, d' = { e with lastLine := some (Line.stripComment raw) } ∧
          Taken (d.beforeTaking line raw) line raw (Line.stripComment raw)
            (Line.classify (Line.stripComment raw)) e) := by
  rw [feed, if_neg (by simp [hfree])] at h
  simp only at h
  -- no step is open from here on, also if the line turns out to be blank
  split at h
  · rename_i hblank
    exact Or.inl ⟨hblank.1, hblank.2, (Except.ok.inj h).symm⟩
  · rename_i hfull
    obtain ⟨e, htaken, hlastLine⟩ := exists_of_bind_eq_ok h
    refine Or.inr ⟨fun hblank => ?_, e, (Except.ok.inj hlastLine).symm, taken_of_declare htaken⟩
    exact Decidable.byContradiction fun hlast => hfull ⟨hblank, hlast⟩

/-- A line that causes no fault is captured by the open step, skipped, or taken up. -/
theorem feed_cases {d d' : Draft} {line : Nat} {raw : Text} (h : d.feed line raw = .ok d') :
    (d.captures raw = true ∧ d' = d.capture raw) ∨
      (d.captures raw = false ∧ Line.stripComment raw = [] ∧ d.lastMode ≠ some .feature ∧
        d' = d.release) ∨
      (d.captures raw = false ∧ ∃ e, d' = { e with lastLine := some (Line.stripComment raw) } ∧
        Taken (d.beforeTaking line raw) line raw (Line.stripComment raw)
          (Line.classify (Line.stripComment raw)) e) := by
  cases hcaptured : d.captures raw with
  | true => exact Or.inl ⟨rfl, eq_capture_of_feed hcaptured h⟩
  | false =>
    rcases feed_cases_of_free hcaptured h with hskipped | ⟨-, htaken⟩
    · exact Or.inr (Or.inl ⟨rfl, hskipped⟩)
    · exact Or.inr (Or.inr ⟨rfl, htaken⟩)

/-- A blank line or a comment that is not captured is skipped, unless it describes the feature. -/
theorem feed_of_blank {d : Draft} {raw : Text} (hfree : d.captures raw = false)
    (hclean : Line.stripComment raw = []) (hlast : d.lastMode ≠ some .feature) (line : Nat) :
    d.feed line raw = .ok d.release := by
  have hskipped : Line.stripComment raw = [] ∧ d.release.lastMode ≠ some .feature :=
    ⟨hclean, hlast⟩
  rw [feed, if_neg (by simp [hfree])]
  simp only [if_pos hskipped]

/-- A line that is not captured, and that means something and can be taken up, causes no fault. -/
theorem feed_of_taken {d e : Draft} {line : Nat} {raw : Text} (hfree : d.captures raw = false)
    (hclean : Line.stripComment raw ≠ [])
    (h : Taken (d.beforeTaking line raw) line raw (Line.stripComment raw)
      (Line.classify (Line.stripComment raw)) e) :
    d.feed line raw = .ok { e with lastLine := some (Line.stripComment raw) } := by
  have hdeclare := h.declare_eq
  rw [feed, if_neg (by simp [hfree])]
  simp only
  rw [if_neg fun hboth => hclean hboth.1]
  show (declare (d.beforeTaking line raw) line raw _ _ >>= _) = _
  rw [hdeclare]
  rfl

/-! ## All lines -/

/-- The number of the line after some lines is counted from the second one as from the first. -/
theorem add_length_cons {α : Type} (line : Nat) (raw : α) (rest : List α) :
    line + (raw :: rest).length = line + 1 + rest.length := by
  rw [List.length_cons]
  omega

/-- What every line keeps holds after all lines. The property may speak of the number of the next
line. -/
theorem feedAll_induction {P : Nat → Draft → Prop}
    (hfeed : ∀ {line d raw d'}, P line d → d.feed line raw = .ok d' → P (line + 1) d')
    {ls : List Text} {line : Nat} {d d' : Draft} (hd : P line d)
    (h : d.feedAll line ls = .ok d') : P (line + ls.length) d' := by
  -- the draft and the number of the next line change with every line
  induction ls generalizing line d with
  | nil =>
    obtain rfl := Except.ok.inj h
    exact hd
  | cons raw rest ih =>
    obtain ⟨d₁, hfirst, hrest⟩ := exists_of_bind_eq_ok h
    rw [add_length_cons]
    exact ih (hfeed hd hfirst) hrest

/-- What every line keeps holds after all lines. The property may speak of the lines that have been
read. -/
theorem feedAll_induction_lines {P : List Text → Draft → Prop}
    (hfeed : ∀ {done d raw d'}, P done d → d.feed (done.length + 1) raw = .ok d' →
      P (done ++ [raw]) d')
    {ls : List Text} {d d' : Draft} (hd : P [] d) (h : d.feedAll 1 ls = .ok d') : P ls d' := by
  -- the lines read before the given ones grow, so that the claim is about any such lines
  suffices hlines : ∀ (ls done : List Text) (d : Draft), P done d →
      d.feedAll (done.length + 1) ls = .ok d' → P (done ++ ls) d' from hlines ls [] d hd h
  intro ls
  induction ls with
  | nil =>
    intro done d hd h
    obtain rfl := Except.ok.inj h
    rwa [List.append_nil]
  | cons raw rest ih =>
    intro done d hd h
    obtain ⟨d₁, hfirst, hrest⟩ := exists_of_bind_eq_ok h
    rw [List.append_cons]
    refine ih (done ++ [raw]) d₁ (hfeed hd hfirst) ?_
    rwa [List.length_append, List.length_singleton]

/-- Lines are taken up one after the other. -/
theorem feedAll_append (d : Draft) (line : Nat) (ls ms : List Text) :
    d.feedAll line (ls ++ ms) =
      (d.feedAll line ls >>= fun e => e.feedAll (line + ls.length) ms) := by
  induction ls generalizing d line with
  | nil => rfl
  | cons raw rest ih =>
    rw [List.cons_append, feedAll, feedAll]
    cases hfirst : d.feed line raw with
    | error halt => rfl
    | ok e =>
      rw [add_length_cons]
      exact ih e (line + 1)

/-- One more line is taken up after the others. -/
theorem feedAll_concat {d e e' : Draft} {ls : List Text} {raw : Text}
    (h : d.feedAll 1 ls = .ok e) (hraw : e.feed (ls.length + 1) raw = .ok e') :
    d.feedAll 1 (ls ++ [raw]) = .ok e' := by
  rw [feedAll_append, h, Nat.add_comm 1]
  show (e.feed (ls.length + 1) raw >>= _) = _
  rw [hraw]
  rfl

/-! ## Whole documents -/

/-- A document that is read has lines, and then an end, that cause no fault. -/
theorem exists_of_parse_eq_ok {t : Text} {f : Feature} (h : parse t = .ok f) :
    ∃ d e, (start [] []).feedAll 1 (Text.lines t) = .ok d ∧ d.finish = .ok e ∧ e.feature = f := by
  unfold parse readDocument at h
  split at h
  · rename_i e hread
    obtain ⟨d, hlines, hend⟩ := exists_of_bind_eq_ok hread
    exact ⟨d, e, hlines, hend, Except.ok.inj h⟩
  · cases h

/-- A document whose lines and whose end cause no fault is read. -/
theorem parse_eq_ok {t : Text} {d e : Draft}
    (hlines : (start [] []).feedAll 1 (Text.lines t) = .ok d) (hend : d.finish = .ok e) :
    parse t = .ok e.feature := by
  have hread : ((start [] []).feedAll 1 (Text.lines t) >>= finish) = .ok e := by
    rw [hlines]
    exact hend
  rw [parse, readDocument, hread]

end Draft

end FeatureDoc
