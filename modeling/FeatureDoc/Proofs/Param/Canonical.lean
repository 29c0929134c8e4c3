/-
# The canonical form of a text

In the canonical form of a text every parameter is a general one. Reading this form finds the same
names again and nothing else: no character that opens no parameter in the text opens one in its
canonical form.

* `tokenAfter?_canonicalFrom` : where no token is found, none is found in the canonical form;
* `segmentsFrom_canonicalFrom` : the segments of the canonical form;
* `canonicalize_fixed` : the canonical form is its own canonical form, with the same names, and
  scanning it binds nothing.
-/
import FeatureDoc.Proofs.Param.Grammar
import FeatureDoc.Param.Scan

namespace FeatureDoc.Param

/-- A segment with its token made a general one. -/
def Segment.inGeneral : Segment → Segment
  | plain c => plain c
  | token t => token (.general t.name)

/-- The canonical form of a text; the flag tells whether a backslash stands right before it. -/
def canonicalFrom (escaped : Bool) (t : Text) : Text :=
  (segmentsFrom 0 escaped t).flatMap Segment.canonical

/-- A token in front of a text is made a general one. -/
theorem canonicalFrom_source {tok : Token} (h : tok.IsLegal) (rest : Text) :
    canonicalFrom false (tok.source ++ rest) =
      (Token.general tok.name).source ++ canonicalFrom false rest := by
  rw [canonicalFrom, segmentsFrom_source h, List.flatMap_cons]
  rfl

/-- A character at which no token is found stays. -/
theorem canonicalFrom_cons {escaped : Bool} {c : Char} {rest : Text}
    (h : c = '<' → escaped = false → tokenAfter? rest = none) :
    canonicalFrom escaped (c :: rest) = c :: canonicalFrom (c = '\\') rest := by
  rw [canonicalFrom, segmentsFrom_cons h, List.flatMap_cons]
  rfl

/-! ## What opens no parameter -/

/-- Up to the first `<` a text is its own canonical form. -/
theorem exists_of_canonicalFrom_eq_append {escaped : Bool} {t w u : Text} (hw : '<' ∉ w)
    (h : canonicalFrom escaped t = w ++ u) :
    ∃ escaped' t', t = w ++ t' ∧ u = canonicalFrom escaped' t' := by
  induction escaped, t using segments_induction generalizing w with
  | nil escaped =>
    obtain ⟨rfl, rfl⟩ := List.nil_eq_append_iff.mp h
    exact ⟨escaped, [], rfl, rfl⟩
  | token tok rest hlegal _ =>
    cases w with
    | nil => exact ⟨false, tok.source ++ rest, rfl, h.symm⟩
    | cons d w =>
      rw [canonicalFrom_source hlegal] at h
      obtain rfl := (List.cons.inj h).1
      exact absurd List.mem_cons_self hw
  | plain escaped c rest hnone ih =>
    cases w with
    | nil => exact ⟨escaped, c :: rest, rfl, h.symm⟩
    | cons d w =>
      rw [canonicalFrom_cons hnone] at h
      obtain ⟨rfl, hrest⟩ := List.cons.inj h
      obtain ⟨escaped', t', rfl, hu⟩ := ih (mt (List.mem_cons_of_mem c) hw) hrest
      exact ⟨escaped', t', rfl, hu⟩

/-- The canonical form has no `>` unless the text has one. -/
theorem mem_of_mem_canonicalFrom {escaped : Bool} {t : Text} (h : '>' ∈ canonicalFrom escaped t) :
    '>' ∈ t := by
  induction escaped, t using segments_induction with
  | nil => cases h
  | token tok rest _ _ =>
    obtain ⟨body, hbody⟩ := source_eq_concat tok
    simp [hbody]
  | plain escaped c rest hnone ih =>
    rw [canonicalFrom_cons hnone] at h
    exact (List.mem_cons.mp h).elim (fun hc => List.mem_cons.mpr (Or.inl hc))
      fun hrest => List.mem_cons_of_mem c (ih hrest)

/-- What stands between the `<` of a variant and its literal. -/
def variantLead (name : Text) : Option Text → Text
  | none => name ++ [':']
  | some codes => name ++ '.' :: codes ++ [':']

/-- A variant is written as its beginning, its literal and the `>` behind it. -/
theorem source_variant (name literal : Text) (codes : Option Text) :
    (Token.variant name codes literal).source =
      '<' :: (variantLead name codes ++ literal ++ ['>']) := by
  cases codes <;> simp [Token.source, variantLead]

/-- A word holds no `<`. -/
theorem notMem_of_isWord {w : Text} (hw : ∀ c ∈ w, Text.isWord c = true) : '<' ∉ w := by
  intro hmem
  cases hw '<' hmem

/-- No `<` stands between that of a legal variant and its literal. -/
theorem notMem_variantLead {name literal : Text} {codes : Option Text}
    (h : (Token.variant name codes literal).IsLegal) : '<' ∉ variantLead name codes := by
  have hname : '<' ∉ name := notMem_of_isWord h.isWord_name
  have hcodes : '<' ∉ codes.getD [] := notMem_of_isWord h.isWord_codes
  cases codes with
  | none => simp [variantLead, hname]
  | some codes => simpa [variantLead, hname] using hcodes

/-- Where no token is found in a text, none is found in its canonical form. -/
theorem tokenAfter?_canonicalFrom {escaped : Bool} {t : Text} (h : tokenAfter? t = none) :
    tokenAfter? (canonicalFrom escaped t) = none := by
  cases hfound : tokenAfter? (canonicalFrom escaped t) with
  | none => rfl
  | some tok =>
    obtain ⟨hlegal, rest, hrest⟩ := tokenAfter?_eq_some_iff.mp hfound
    -- a token that stands there in the text as well
    suffices hsome : ∃ tok', tokenAfter? t = some tok' by
      obtain ⟨tok', htok'⟩ := hsome
      cases h.symm.trans htok'
    cases tok with
    | general name =>
      have hname : '<' ∉ name ++ ['>'] := by
        have hword : '<' ∉ name := notMem_of_isWord hlegal.isWord_name
        simp [hword]
      have hcanonical : canonicalFrom escaped t = name ++ ['>'] ++ rest :=
        (List.cons.inj hrest).2
      obtain ⟨_, after, rfl, -⟩ := exists_of_canonicalFrom_eq_append hname hcanonical
      exact ⟨.general name, tokenAfter?_of_source hlegal after rfl⟩
    | variant name codes literal =>
      rw [source_variant] at hrest
      have hcanonical : canonicalFrom escaped t =
          variantLead name codes ++ (literal ++ ['>'] ++ rest) := by
        simpa using (List.cons.inj hrest).2
      obtain ⟨escaped', after, rfl, hafter⟩ :=
        exists_of_canonicalFrom_eq_append (notMem_variantLead hlegal) hcanonical
      -- the literal may hold a parameter, but it ends in the text as well
      have hmem : '>' ∈ canonicalFrom escaped' after := by
        rw [← hafter]
        simp
      have hcloses : '>' ∈ after := mem_of_mem_canonicalFrom hmem
      obtain ⟨⟨literal', rest'⟩, hcut⟩ : ∃ cut, Text.cutAt? '>' after = some cut :=
        Option.ne_none_iff_exists'.mp fun hnone => Text.cutAt?_eq_none_iff.mp hnone hcloses
      obtain ⟨rfl, hliteral⟩ := Text.cutAt?_eq_some_iff.mp hcut
      refine ⟨.variant name codes literal', tokenAfter?_of_source ?_ rest' ?_⟩
      · exact ⟨hlegal.name_ne_nil, hlegal.isWord_name, hlegal.isWord_codes, hliteral⟩
      · rw [source_variant]
        simp

/-! ## Reading the canonical form -/

/-- The segments of the canonical form are those of the text with general tokens. -/
theorem segmentsFrom_canonicalFrom (escaped : Bool) (t : Text) :
    segmentsFrom 0 escaped (canonicalFrom escaped t) =
      (segmentsFrom 0 escaped t).map Segment.inGeneral := by
  induction escaped, t using segments_induction with
  | nil => rfl
  | token tok rest hlegal ih =>
    rw [canonicalFrom_source hlegal, segmentsFrom_source hlegal.general, ih,
      segmentsFrom_source hlegal, List.map_cons]
    rfl
  | plain escaped c rest hnone ih =>
    have hnone' : c = '<' → escaped = false →
        tokenAfter? (canonicalFrom (c = '\\') rest) = none :=
      fun hc he => tokenAfter?_canonicalFrom (hnone hc he)
    rw [canonicalFrom_cons hnone, segmentsFrom_cons hnone', ih, segmentsFrom_cons hnone,
      List.map_cons]
    rfl

/-- A character at which no general parameter is found is passed over. -/
theorem generalsFrom_of_none {escaped : Bool} {c : Char} {rest : Text}
    (h : c = '<' → escaped = false → generalAfter? rest = none) :
    generalsFrom escaped (c :: rest) = generalsFrom (c = '\\') rest := by
  rw [generalsFrom, ite_open_eq_none h]

/-- A part without a `<` is passed over with the `>` behind it. -/
theorem generalsFrom_append {w : Text} (hw : '<' ∉ w) (escaped : Bool) (rest : Text) :
    generalsFrom escaped (w ++ '>' :: rest) = generalsFrom false rest := by
  induction w generalizing escaped with
  | nil => rfl
  | cons c w ih =>
    obtain ⟨hc, hw⟩ := not_or.mp (mt List.mem_cons.mpr hw)
    rw [List.cons_append, generalsFrom_of_none fun heq => absurd heq.symm hc]
    exact ih hw _

/-- The general parameters of the canonical form are the tokens of the text. -/
theorem generalsFrom_canonicalFrom (escaped : Bool) (t : Text) :
    generalsFrom escaped (canonicalFrom escaped t) =
      ((segmentsFrom 0 escaped t).filterMap Segment.token?).map Token.name := by
  induction escaped, t using segments_induction with
  | nil => rfl
  | token tok rest hlegal ih =>
    have hwritten : (Token.general tok.name).source ++ canonicalFrom false rest =
        '<' :: (tok.name ++ '>' :: canonicalFrom false rest) := by
      simp [Token.source]
    have hfound : generalAfter? (tok.name ++ '>' :: canonicalFrom false rest) = some tok.name :=
      generalAfter?_eq_some_iff.mpr (tokenAfter?_of_source hlegal.general _ hwritten.symm)
    rw [canonicalFrom_source hlegal, hwritten, generalsFrom, if_pos ⟨rfl, by decide⟩, hfound]
    simp only [generalsFrom_append (notMem_of_isWord hlegal.isWord_name), ih,
      segmentsFrom_source hlegal]
    rfl
  | plain escaped c rest hnone ih =>
    rw [canonicalFrom_cons hnone, generalsFrom_of_none fun hc he => ?_, ih,
      segmentsFrom_cons hnone]
    · rfl
    · exact generalAfter?_eq_none (tokenAfter?_canonicalFrom (hnone hc he))

/-- Tokens that are all general bind nothing. -/
theorem bindTokens_map_general (s : Scanned) (names : List Text) :
    bindTokens s (names.map Token.general) = .ok s := by
  induction names with
  | nil => rfl
  | cons name rest ih => exact ih

/-- In the canonical form of a text every token is a general one with the name of the token that
stands there in the text, and there are no other general parameters. The canonical form is its own
canonical form, and scanning it yields no bindings. -/
theorem canonicalize_fixed (t : Text) :
    tokens (canonicalize t) = (tokens t).map (fun tok => .general tok.name) ∧
    generals (canonicalize t) = (tokens t).map Token.name ∧
    canonicalize (canonicalize t) = canonicalize t ∧
    scan (canonicalize t) =
      .ok { canonical := canonicalize t, constants := [], aliases := [] } := by
  have hsegments : segments (canonicalize t) = (segments t).map Segment.inGeneral :=
    segmentsFrom_canonicalFrom false t
  have htokens : tokens (canonicalize t) = (tokens t).map fun tok => .general tok.name := by
    rw [tokens, hsegments, List.filterMap_map, tokens, List.map_filterMap]
    congr 1
    funext seg
    cases seg <;> rfl
  have hfixed : canonicalize (canonicalize t) = canonicalize t := by
    rw [canonicalize, hsegments, List.flatMap_map, canonicalize]
    congr 1
    funext seg
    cases seg <;> rfl
  refine ⟨htokens, generalsFrom_canonicalFrom false t, hfixed, ?_⟩
  have hnames : (tokens t).map (fun tok => Token.general tok.name) =
      ((tokens t).map Token.name).map Token.general := by
    rw [List.map_map]
    rfl
  rw [scan, hfixed, htokens, hnames]
  exact bindTokens_map_general _ _

end FeatureDoc.Param
