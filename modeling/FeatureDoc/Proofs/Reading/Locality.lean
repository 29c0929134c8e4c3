/-
# Nothing leaks across the declaration of a scenario

What stands above the declaration of a scenario decides neither what the scenario is nor what the
scenarios below it are: behind any text that ends its last line, the rest of a document declares the
same scenarios as it does by itself, with the numbers of their lines moved. Only the tags of the
first one may stand above it.

* `Draft.follows_of_feed` : the line that declares a scenario leaves nothing of before;
* `Feature.scenarios_of_append` : the scenarios of a text behind another one;
* `Feature.scenarios_local` : the scenarios of a text behind two others.
-/
import FeatureDoc.Proofs.Reading.Following
import FeatureDoc.Proofs.Reading.Attribution
import FeatureDoc.Proofs.Reading.Validity
import FeatureDoc.Proofs.Text.Lines
import FeatureDoc.Proofs.Line.Comment

namespace FeatureDoc

/-- The text begins with the declaration of a scenario, without blanks in front of it. -/
def Text.OpensScenario (s : Text) : Prop :=
  ∃ first rest, Text.lines s = first :: rest ∧ Text.indentWidth first = 0 ∧
    (declaredName? first).isSome

/-- The text ends its last line, if it has any. -/
def Text.EndsLine (x : Text) : Prop := x = [] ∨ x.getLast? = some '\n'

/-! ## The line that declares a scenario -/

/-- Something is left of a line that declares a scenario. -/
theorem stripComment_ne_nil_of_declaredName? {raw : Text} (h : (declaredName? raw).isSome) :
    Line.stripComment raw ≠ [] := by
  intro hnil
  rw [declaredName?, hnil] at h
  cases h

/-- Two kinds of lines declare scenarios. -/
theorem kind_of_declaredName? {raw : Text} (h : (declaredName? raw).isSome) :
    (Line.classify (Line.stripComment raw)).kind = some .scenario ∨
      (Line.classify (Line.stripComment raw)).kind = some .scenarioOutline := by
  rw [declaredName?_eq] at h
  simp only at h
  split at h
  · rename_i hany
    cases hkind : (Line.classify (Line.stripComment raw)).kind with
    | none =>
      rw [hkind] at hany
      cases hany
    | some kind =>
      rw [hkind, Option.any_some] at hany
      cases kind with
      | scenario => exact Or.inl rfl
      | scenarioOutline => exact Or.inr rfl
      | _ => cases hany
  · cases h

namespace Draft

/-- A line that is neither blank nor indented is not captured. -/
theorem captures_eq_false_of_full {d : Draft} {raw : Text} (hindent : Text.indentWidth raw = 0)
    (hfull : Text.isBlankLine raw = false) : d.captures raw = false := by
  unfold captures
  split
  · rfl
  · simp [hindent, hfull]

/-- The line that declares a scenario leaves nothing of before: a valid draft goes on as if the
line were the first one of a document. -/
theorem follows_of_feed {n : Nat} {d d' : Draft} {raw : Text} (hd : d.Valid)
    (hindent : Text.indentWidth raw = 0) (hname : (declaredName? raw).isSome)
    (hfeed : d.feed (1 + n) raw = .ok d') :
    ∃ e, (start [] []).feed 1 raw = .ok e ∧ e.Follows n d' := by
  have hclean := stripComment_ne_nil_of_declaredName? hname
  have hkind := kind_of_declaredName? hname
  have hfull := Line.isBlankLine_of_stripComment_ne_nil hclean
  have hcapturing := hd.capturing_release
  rcases feed_cases hfeed with ⟨hcaptured, -⟩ | ⟨-, hnil, -, -⟩ | ⟨-, e, rfl, htaken⟩
  · rw [captures_eq_false_of_full hindent hfull] at hcaptured
    cases hcaptured
  · exact absurd hnil hclean
  generalize hc : Line.classify (Line.stripComment raw) = c at hkind htaken
  cases htaken with
  | scenario closed _ hclosed _ =>
    -- by itself the line finds nothing to close and no scenario before it
    have hstart : Taken ((start [] []).beforeTaking 1 raw) 1 raw (Line.stripComment raw)
        (Line.classify (Line.stripComment raw))
        ((((start [] []).beforeTaking 1 raw).enter .scenario).openScenario
          (.declared c.text c.keyword 1 [])) := by
      rw [hc]
      exact .scenario _ hkind rfl rfl
    refine ⟨_, feed_of_taken rfl hclean hstart, ?_⟩
    obtain ⟨journal, rfl⟩ := closeBlocks_eq_ok hclosed
    obtain ⟨journal', hopened⟩ := openScenario_eq
      (((start [] []).beforeTaking 1 raw).enter .scenario) (.declared c.text c.keyword 1 [])
    rw [hopened]
    obtain ⟨journal'', hopened'⟩ := openScenario_eq _ _
    rw [hopened']
    refine {
      scenario := ⟨c.text, _, rfl, rfl, Feature.scenario?_putScenario_self _ _⟩
      mode := rfl
      lastMode := rfl
      openStep := rfl
      owner := fun s hs => nomatch hs
      capturing := hcapturing
      lastLine := rfl
      scenarioBlock := rfl
      featureBlock := ⟨rfl, rfl⟩
      named := fun _ => rfl
      found := ?_ }
    intro name r hr
    -- by itself the line makes the only scenario of the feature
    by_cases hname : name = c.text
    · subst hname
      have hself := Feature.scenario?_putScenario_self (.empty [] [])
        (.declared c.text c.keyword 1 [])
      obtain rfl := Option.some.inj (hself.symm.trans hr)
      exact ⟨_, Feature.scenario?_putScenario_self _ _, _, rfl, fun hne => absurd rfl hne⟩
    · have hother := (Feature.scenario?_putScenario_of_ne (.empty [] [])
        (s := .declared c.text c.keyword 1 []) hname).symm.trans hr
      cases hother
  | _ => grind

/-- The declarations of lines in a row. -/
theorem declarations_append {d e : Draft} {line : Nat} {ls : List Text} (ms : List Text)
    (h : d.feedAll line ls = .ok e) : d.declarations line (ls ++ ms) =
      d.declarations line ls ++ e.declarations (line + ls.length) ms := by
  induction ls generalizing d line with
  | nil =>
    obtain rfl := Except.ok.inj h
    rfl
  | cons raw rest ih =>
    obtain ⟨d₁, hfirst, hrest⟩ := exists_of_bind_eq_ok h
    rw [List.cons_append, declarations, declarations, hfirst, add_length_cons, List.append_assoc]
    exact congrArg _ (ih hrest)

end Draft

/-! ## Whole documents -/

/-- Every name that a document declares is that of a scenario. -/
theorem Feature.exists_scenario?_of_declarations {t : Text} {f : Feature} (h : parse t = .ok f)
    {name : Text} (hname : name ∈ (declarations t).map Declaration.name) :
    ∃ r, f.scenario? name = some r := by
  obtain ⟨d, e, hlines, hend, rfl⟩ := Draft.exists_of_parse_eq_ok h
  have hfeed := Draft.attributed_of_feedAll (Draft.attributed_start [] []) hlines
  obtain ⟨hlayout, hscenarioBlock, hfeatureBlock⟩ := Draft.attributed_of_finish hfeed hend
  have hattributed := Feature.attributed_of_layout hlayout hscenarioBlock hfeatureBlock
  obtain ⟨r, -, -, hr, -⟩ := hattributed.scenarios name hname
  exact ⟨r, hr⟩

/-- Behind another text a text that opens with a scenario can be read if the whole can. It makes
the same declarations, further down, and the same scenarios. -/
theorem Feature.scenarios_of_append {x s : Text} {f : Feature} (hx : x.EndsLine)
    (hs : s.OpensScenario) (h : parse (x ++ s) = .ok f) : ∃ g, parse s = .ok g ∧
      declarations (x ++ s) =
        declarations x ++ (declarations s).map (Declaration.moved (Text.lines x).length) ∧
      ∀ name r, g.scenario? name = some r → ∃ t, f.scenario? name = some t ∧
        r.Follows (Text.lines x).length t := by
  obtain ⟨first, rest, hlines, hindent, hname⟩ := hs
  obtain ⟨d, d', hread, hend, rfl⟩ := Draft.exists_of_parse_eq_ok h
  rw [Text.lines_append_of_endsLine hx, hlines, Draft.feedAll_append] at hread
  obtain ⟨d₀, hbefore, hsince⟩ := exists_of_bind_eq_ok hread
  obtain ⟨d₁, hfirst, hrest⟩ := exists_of_bind_eq_ok hsince
  -- the first line of `s` leaves nothing of `x`, and the other lines follow
  have hvalid := Draft.valid_of_feedAll hbefore
  obtain ⟨e₁, he₁, h₁⟩ := Draft.follows_of_feed hvalid hindent hname hfirst
  rw [Nat.add_right_comm] at hrest
  obtain ⟨e, he, hfollows⟩ := h₁.feedAll hrest
  obtain ⟨e', he', hfollows'⟩ := hfollows.finish hend
  have hself : (Draft.start [] []).feedAll 1 (Text.lines s) = .ok e := by
    rw [hlines, Draft.feedAll, he₁]
    exact he
  refine ⟨e'.feature, Draft.parse_eq_ok hself he', ?_, hfollows'.found⟩
  have hfull := Line.isBlankLine_of_stripComment_ne_nil (stripComment_ne_nil_of_declaredName? hname)
  have hdeclared : d₀.declaredBy (1 + (Text.lines x).length) first =
      ((Draft.start [] []).declaredBy 1 first).map
        (Declaration.moved (Text.lines x).length) := by
    rw [Draft.declaredBy, Draft.declaredBy, Draft.captures_eq_false_of_full hindent hfull,
      Draft.captures_eq_false_of_full hindent hfull, if_neg Bool.false_ne_true,
      if_neg Bool.false_ne_true, List.map_map]
    rfl
  rw [declarations, declarations, declarations, Text.lines_append_of_endsLine hx,
    Draft.declarations_append _ hbefore, hlines, Draft.declarations, Draft.declarations, hfirst,
    he₁, List.map_append, hdeclared, Nat.add_right_comm]
  exact congrArg _ (congrArg _ (h₁.declarations hrest))

/-- Behind two texts that end their last lines, a third one that opens with a scenario makes the
same declarations. Every scenario that it declares is the same in both documents, with the numbers
of all its lines moved by the number of lines before. Only the tags of the scenario on the first
line of the third text may differ. -/
theorem Feature.scenarios_local {x y s : Text} {f g : Feature} (hx : x.EndsLine) (hy : y.EndsLine)
    (hs : s.OpensScenario) (hf : parse (x ++ s) = .ok f) (hg : parse (y ++ s) = .ok g) :
    declarations (x ++ s) =
      declarations x ++ (declarations s).map (Declaration.moved (Text.lines x).length) ∧
    declarations (y ++ s) =
      declarations y ++ (declarations s).map (Declaration.moved (Text.lines y).length) ∧
    ∀ name ∈ (declarations s).map Declaration.name, ∃ (r : Scenario) (tags tags' : List Text),
      f.scenario? name = some { r.moved (Text.lines x).length with tags } ∧
      g.scenario? name = some { r.moved (Text.lines y).length with tags := tags' } ∧
      (r.line ≠ 1 → tags = tags') := by
  obtain ⟨h, hh, hdeclared, hfound⟩ := Feature.scenarios_of_append hx hs hf
  obtain ⟨h', hh', hdeclared', hfound'⟩ := Feature.scenarios_of_append hy hs hg
  obtain rfl : h = h' := Except.ok.inj (hh.symm.trans hh')
  refine ⟨hdeclared, hdeclared', fun name hname => ?_⟩
  obtain ⟨r, hr⟩ := Feature.exists_scenario?_of_declarations hh hname
  obtain ⟨_, ht, tags, rfl, htags⟩ := hfound name r hr
  obtain ⟨_, ht', tags', rfl, htags'⟩ := hfound' name r hr
  exact ⟨r, tags, tags', ht, ht', fun hline => (htags hline).trans (htags' hline).symm⟩

/-- The first text ends in the tags of a scenario, and the second one declares a scenario that is
declared again. -/
theorem Feature.scenarios_local_of_tags :
    let x : Text := "Feature: F\n@a\n"
    let y : Text := "Scenario: A\nGiven x\n  more\n"
    let s : Text := "Scenario: A\nGiven y\n@b\nScenario: B\nWhen z\nExamples:\n| p |\n| 1 |\n"
    x.EndsLine ∧ y.EndsLine ∧ s.OpensScenario ∧ ∃ f g,
      parse (x ++ s) = .ok f ∧ parse (y ++ s) = .ok g ∧
      (∃ (r : Scenario) (tags tags' : List Text),
        f.scenario? ['A'] = some { r.moved 2 with tags } ∧
        g.scenario? ['A'] = some { r.moved 3 with tags := tags' } ∧ (r.line ≠ 1 → tags = tags')) ∧
      ∃ (r : Scenario) (tags tags' : List Text),
        f.scenario? ['B'] = some { r.moved 2 with tags } ∧
        g.scenario? ['B'] = some { r.moved 3 with tags := tags' } ∧
        (r.line ≠ 1 → tags = tags') := by
  intro x y s
  have hx : x.EndsLine := Or.inr rfl
  have hy : y.EndsLine := Or.inr rfl
  have hs : s.OpensScenario := ⟨_, _, rfl, rfl, rfl⟩
  obtain ⟨-, -, hlocal⟩ := scenarios_local hx hy hs rfl rfl
  exact ⟨hx, hy, hs, _, _, rfl, rfl, hlocal ['A'] (by decide), hlocal ['B'] (by decide)⟩

end FeatureDoc
