/-
# What the variants of a text bind

Scanning binds the names of the variants of a text from left to right. When a single variant is
valid, what it binds its name to and why it is refused can be said of its codes and its literal
alone. The tables of a whole text follow from that: the last variant of a name decides what the name
is bound to, and the first variant that is not valid decides why there are no tables.

* `Fits`, `Binds`, `Refuses` : when a single variant is valid, what it binds its name to, and why
  it is refused;
* `bindingOf_cases` : scanning a single variant;
* `exists_bindTokens_iff`, `exists_refused_of_bindTokens`, `holds_of_bindTokens` : scanning variants
  one after the other;
* `tables_of_scan` : the tables of a text, or the fault of its first variant that is not valid.
-/
import FeatureDoc.Param.Scan
import FeatureDoc.Proofs.Success

namespace FeatureDoc.Param

/-! ## A single variant -/

/-- What the codes and the literal of a valid variant are like. -/
structure Fits (codes literal : Text) : Prop where
  /-- All characters of the codes are codes. -/
  registered : ∀ c ∈ codes, Code.isCode c = true
  /-- After the first `A` there is no code, or the last of them converts. -/
  post : ∀ before after, codes = before ++ 'A' :: after → 'A' ∉ before →
    ∀ c, after.getLast? = some c → isConverting c = true
  /-- Without `A` and `S` the codes convert the literal. -/
  literal : 'A' ∉ codes → 'S' ∉ codes → ∃ v, Code.applyAll codes (.text literal) = .ok v

/-- What codes and a literal bind a name to. -/
inductive Binds (codes literal : Text) : Binding → Prop
  /-- With an `A`, the literal is the target, and the last code after the first `A` is applied. -/
  | reference {before after : Text} (hcut : codes = before ++ 'A' :: after)
      (hfirst : 'A' ∉ before) : Binds codes literal (.reference ⟨literal, after.getLast?⟩)
  /-- With an `S` and no `A`, nothing is passed. -/
  | skip (halias : 'A' ∉ codes) (hskip : 'S' ∈ codes) : Binds codes literal (.constant .skip)
  /-- Without codes and literal, nothing is passed. -/
  | empty (hcodes : codes = []) (hliteral : literal = []) : Binds codes literal (.constant .skip)
  /-- With other codes, the literal is passed as they convert it. -/
  | value {v : Value} (halias : 'A' ∉ codes) (hskip : 'S' ∉ codes)
      (hsome : codes = [] → literal ≠ []) (happly : Code.applyAll codes (.text literal) = .ok v) :
      Binds codes literal (.constant (.value v))

/-- Why the variant of a name is refused for its codes and its literal. -/
inductive Refuses (name codes literal : Text) : ScanError → Prop
  /-- For its first character that is no code. -/
  | unknownCode {before after : Text} {c : Char} (hcodes : codes = before ++ c :: after)
      (hbefore : ∀ d ∈ before, Code.isCode d = true) (hc : Code.isCode c = false) :
      Refuses name codes literal (.unknownCode name c)
  /-- For the last code after the first `A`, which converts nothing. -/
  | postCode {before after : Text} {c : Char} (hcodes : ∀ d ∈ codes, Code.isCode d = true)
      (hcut : codes = before ++ 'A' :: after) (hfirst : 'A' ∉ before)
      (hlast : after.getLast? = some c) (hc : isConverting c = false) :
      Refuses name codes literal (.postCode name c)
  /-- For its literal, which the codes do not convert. -/
  | literal {cause : ConversionError} (hcodes : ∀ d ∈ codes, Code.isCode d = true)
      (halias : 'A' ∉ codes) (hskip : 'S' ∉ codes)
      (happly : Code.applyAll codes (.text literal) = .error cause) :
      Refuses name codes literal (.literal name cause)

/-- The only code that leaves an argument out is `S`. -/
theorem isSkip_iff {c : Char} : isSkip c = true ↔ c = 'S' := by
  constructor
  · intro h
    unfold isSkip at h
    split at h
    · rename_i haction
      obtain ⟨entry, hfound, hskip⟩ := Option.map_eq_some_iff.mp haction
      have honly : ∀ entry ∈ Code.table, entry.action = .skip → entry.code = 'S' := by
        simp [Code.table]
      have hcode : entry.code = c := by simpa using List.find?_some hfound
      rw [← hcode, honly entry (List.mem_of_find?_eq_some hfound) hskip]
    · cases h
  · rintro rfl
    rfl

/-- An argument is left out if there is an `S` among the codes. -/
theorem any_isSkip_iff {codes : Text} : codes.any isSkip = true ↔ 'S' ∈ codes := by
  simp only [List.any_eq_true, isSkip_iff, exists_eq_right]

variable {name literal before after : Text} {codes : Option Text}

/-- The first character that is no code is refused. -/
theorem bindingOf_of_unknown {c : Char} (hcodes : codes.getD [] = before ++ c :: after)
    (hbefore : ∀ d ∈ before, Code.isCode d = true) (hc : Code.isCode c = false) :
    bindingOf name codes literal = .error (.unknownCode name c) := by
  have hfind : (codes.getD []).find? (fun c => !Code.isCode c) = some c := by
    rw [List.find?_eq_some_iff_append]
    exact ⟨by rw [hc]; rfl, before, after, hcodes, fun d hd => by rw [hbefore d hd]; rfl⟩
  simp only [bindingOf, hfind]

/-- Codes with an `A` make an alias. -/
theorem bindingOf_of_alias (hcodes : ∀ c ∈ codes.getD [], Code.isCode c = true)
    (hcut : codes.getD [] = before ++ 'A' :: after) (hfirst : 'A' ∉ before) :
    bindingOf name codes literal = (aliasOf name literal after).map .reference := by
  have hfind : (codes.getD []).find? (fun c => !Code.isCode c) = none :=
    List.find?_eq_none.mpr fun c hc => by rw [hcodes c hc]; exact Bool.false_ne_true
  simp only [bindingOf, hfind, Text.cutAt?_eq_some_iff.mpr ⟨hcut, hfirst⟩]

/-- Codes without an `A` make a constant. -/
theorem bindingOf_of_constant (hcodes : ∀ c ∈ codes.getD [], Code.isCode c = true)
    (halias : 'A' ∉ codes.getD []) :
    bindingOf name codes literal = (constantOf name (codes.getD []) literal).map .constant := by
  have hfind : (codes.getD []).find? (fun c => !Code.isCode c) = none :=
    List.find?_eq_none.mpr fun c hc => by rw [hcodes c hc]; exact Bool.false_ne_true
  simp only [bindingOf, hfind, Text.cutAt?_eq_none_iff.mpr halias]

/-- Codes have a first character that is no code, or they have a first `A`, or no `A`. -/
theorem codes_cases (codes : Text) :
    (∃ before c after, codes = before ++ c :: after ∧ (∀ d ∈ before, Code.isCode d = true) ∧
      Code.isCode c = false) ∨
    (∀ c ∈ codes, Code.isCode c = true) ∧
      ((∃ before after, codes = before ++ 'A' :: after ∧ 'A' ∉ before) ∨ 'A' ∉ codes) := by
  cases hfind : codes.find? fun c => !Code.isCode c with
  | some c =>
    obtain ⟨hc, before, after, hcodes, hbefore⟩ := List.find?_eq_some_iff_append.mp hfind
    exact Or.inl ⟨before, c, after, hcodes, by simpa using hbefore, by simpa using hc⟩
  | none =>
    refine Or.inr ⟨by simpa using List.find?_eq_none.mp hfind, ?_⟩
    by_cases halias : 'A' ∈ codes
    · exact Or.inl (List.eq_append_cons_of_mem halias)
    · exact Or.inr halias

/-- Two cuts at a first `A` are one. -/
theorem eq_of_first {before' after' codes : Text} (hcut : codes = before ++ 'A' :: after)
    (hfirst : 'A' ∉ before) (hcut' : codes = before' ++ 'A' :: after') (hfirst' : 'A' ∉ before') :
    after = after' := by
  have heq := Text.cutAt?_eq_some_iff.mpr ⟨hcut, hfirst⟩
  rw [Text.cutAt?_eq_some_iff.mpr ⟨hcut', hfirst'⟩] at heq
  exact (Prod.mk.inj (Option.some.inj heq)).2.symm

/-- Codes and a literal bind a name to one thing only. -/
theorem Binds.eq {codes : Text} {b b' : Binding} (h : Binds codes literal b)
    (h' : Binds codes literal b') : b = b' := by
  cases h with
  | reference hcut hfirst =>
    have hmem : 'A' ∈ codes := by rw [hcut]; simp
    cases h' with
    | reference hcut' hfirst' => rw [eq_of_first hcut hfirst hcut' hfirst']
    | skip halias => exact absurd hmem halias
    | empty hcodes => exact absurd (hcodes ▸ hmem) List.not_mem_nil
    | value halias => exact absurd hmem halias
  | skip halias hskip =>
    cases h' with
    | reference hcut' => exact absurd (by rw [hcut']; simp) halias
    | skip => rfl
    | empty => rfl
    | value _ hskip' => exact absurd hskip hskip'
  | empty hcodes hliteral =>
    cases h' with
    | reference hcut' => simp [hcodes] at hcut'
    | skip => rfl
    | empty => rfl
    | value _ _ hsome => exact absurd hliteral (hsome hcodes)
  | value halias hskip hsome happly =>
    cases h' with
    | reference hcut' => exact absurd (by rw [hcut']; simp) halias
    | skip _ hskip' => exact absurd hskip' hskip
    | empty hcodes hliteral => exact absurd hliteral (hsome hcodes)
    | value _ _ _ happly' =>
      rw [happly] at happly'
      rw [Except.ok.inj happly']

/-- An alias is made unless the last code after the `A` converts nothing. -/
theorem aliasOf_cases (name target after : Text) :
    (aliasOf name target after = .ok ⟨target, after.getLast?⟩ ∧
      ∀ c, after.getLast? = some c → isConverting c = true) ∨
    ∃ c, aliasOf name target after = .error (.postCode name c) ∧ after.getLast? = some c ∧
      isConverting c = false := by
  rw [aliasOf]
  cases hlast : after.getLast? with
  | none => exact Or.inl ⟨rfl, by simp⟩
  | some c =>
    cases hc : isConverting c with
    | true =>
      refine Or.inl ⟨if_pos hc, fun d hd => ?_⟩
      rw [← Option.some.inj hd, hc]
    | false => exact Or.inr ⟨c, if_neg (by rw [hc]; exact Bool.false_ne_true), rfl, hc⟩

/-- A constant is made unless the codes do not convert the literal. -/
theorem constantOf_cases (name : Text) {codes : Text} (literal : Text) (halias : 'A' ∉ codes) :
    (∃ c, constantOf name codes literal = .ok c ∧ Binds codes literal (.constant c) ∧
      ('S' ∉ codes → ∃ v, Code.applyAll codes (.text literal) = .ok v)) ∨
    ∃ cause, constantOf name codes literal = .error (.literal name cause) ∧ 'S' ∉ codes ∧
      Code.applyAll codes (.text literal) = .error cause := by
  rw [constantOf]
  by_cases hcodes : codes = []
  · subst hcodes
    rw [if_pos rfl]
    have happly : Code.applyAll [] (.text literal) = .ok (.text literal) := rfl
    by_cases hliteral : literal = []
    · rw [if_pos hliteral]
      exact Or.inl ⟨.skip, rfl, .empty rfl hliteral, fun _ => ⟨_, happly⟩⟩
    · rw [if_neg hliteral]
      exact Or.inl ⟨_, rfl, .value halias (by simp) (fun _ => hliteral) happly,
        fun _ => ⟨_, happly⟩⟩
  · rw [if_neg hcodes]
    by_cases hskip : 'S' ∈ codes
    · rw [if_pos (any_isSkip_iff.mpr hskip)]
      exact Or.inl ⟨.skip, rfl, .skip halias hskip, fun h => absurd hskip h⟩
    · rw [if_neg (fun h => hskip (any_isSkip_iff.mp h))]
      cases happly : Code.applyAll codes (.text literal) with
      | ok v =>
        exact Or.inl ⟨_, rfl, .value halias hskip (fun h => absurd h hcodes) happly,
          fun _ => ⟨v, rfl⟩⟩
      | error cause => exact Or.inr ⟨cause, rfl, hskip, rfl⟩

/-- A variant that is valid is bound to what its codes and its literal say, and one that is not is
refused for its first fault. -/
theorem bindingOf_cases (name : Text) (codes : Option Text) (literal : Text) :
    (∃ b, bindingOf name codes literal = .ok b ∧ Fits (codes.getD []) literal ∧
      Binds (codes.getD []) literal b) ∨
    ∃ e, bindingOf name codes literal = .error e ∧ ¬Fits (codes.getD []) literal ∧
      Refuses name (codes.getD []) literal e := by
  rcases codes_cases (codes.getD []) with ⟨before, c, after, hcut, hbefore, hc⟩ |
    ⟨hcodes, ⟨before, after, hcut, hfirst⟩ | halias⟩
  · refine Or.inr ⟨_, bindingOf_of_unknown hcut hbefore hc, fun hfits => ?_,
      .unknownCode hcut hbefore hc⟩
    have hcode := hfits.registered c (by rw [hcut]; simp)
    rw [hc] at hcode
    cases hcode
  · rw [bindingOf_of_alias hcodes hcut hfirst]
    rcases aliasOf_cases name literal after with ⟨hmade, hpost⟩ | ⟨c, hmade, hlast, hc⟩ <;>
      rw [hmade]
    · refine Or.inl ⟨_, rfl, ⟨hcodes, fun before' after' hcut' hfirst' => ?_, fun hnone => ?_⟩,
        .reference hcut hfirst⟩
      · rwa [← eq_of_first hcut hfirst hcut' hfirst']
      · exact absurd (by rw [hcut]; simp) hnone
    · refine Or.inr ⟨_, rfl, fun hfits => ?_, .postCode hcodes hcut hfirst hlast hc⟩
      rw [hfits.post before after hcut hfirst c hlast] at hc
      cases hc
  · rw [bindingOf_of_constant hcodes halias]
    rcases constantOf_cases name literal halias with ⟨c, hmade, hbinds, happly⟩ |
      ⟨cause, hmade, hskip, happly⟩ <;> rw [hmade]
    · refine Or.inl ⟨_, rfl, ⟨hcodes, fun before after hcut => ?_, fun _ => happly⟩, hbinds⟩
      exact absurd (by rw [hcut]; simp) halias
    · refine Or.inr ⟨_, rfl, fun hfits => ?_, .literal hcodes halias hskip happly⟩
      obtain ⟨v, hv⟩ := hfits.literal halias hskip
      rw [happly] at hv
      cases hv

/-! ## Variants one after the other -/

/-- Whether a parameter is valid; a general one always is. -/
def Token.IsValid : Token → Prop
  | general _ => True
  | variant _ codes literal => Fits (codes.getD []) literal

/-- Binding tokens in a row is binding the first ones and, if these are valid, the others. -/
theorem bindTokens_append (s : Scanned) (first rest : List Token) :
    bindTokens s (first ++ rest) = bindTokens s first >>= (bindTokens · rest) := by
  induction first generalizing s with
  | nil => rfl
  | cons token first ih =>
    cases token with
    | general name => exact ih s
    | variant name codes literal =>
      simp only [List.cons_append, bindTokens]
      cases bindingOf name codes literal with
      | ok b => exact ih _
      | error e => rfl

/-- Tokens can be bound exactly if all of them are valid. -/
theorem exists_bindTokens_iff {s : Scanned} {ts : List Token} :
    (∃ s', bindTokens s ts = .ok s') ↔ ∀ u ∈ ts, u.IsValid := by
  induction ts generalizing s with
  | nil => simp [bindTokens]
  | cons token ts ih =>
    rw [List.forall_mem_cons]
    cases token with
    | general name => exact ih.trans (and_iff_right trivial).symm
    | variant name codes literal =>
      rw [bindTokens]
      rcases bindingOf_cases name codes literal with ⟨b, hb, hfits, -⟩ | ⟨e, he, hfits, -⟩
      · simp only [hb]
        exact ih.trans (and_iff_right hfits).symm
      · simp only [he]
        constructor
        · rintro ⟨s', h⟩
          cases h
        · intro h
          exact absurd h.1 hfits

/-- If tokens cannot be bound, the first variant that is not valid is refused. -/
theorem exists_refused_of_bindTokens {s : Scanned} {ts : List Token} {e : ScanError}
    (h : bindTokens s ts = .error e) :
    ∃ before name codes literal after, ts = before ++ .variant name codes literal :: after ∧
      (∀ u ∈ before, u.IsValid) ∧ ¬(Token.variant name codes literal).IsValid ∧
      Refuses name (codes.getD []) literal e := by
  induction ts generalizing s with
  | nil => cases h
  | cons token ts ih =>
    -- what is found among the later tokens is found behind this one
    have hlater {s' : Scanned} (hvalid : token.IsValid) (h : bindTokens s' ts = .error e) :
        ∃ before name codes literal after,
          token :: ts = before ++ .variant name codes literal :: after ∧
          (∀ u ∈ before, u.IsValid) ∧ ¬(Token.variant name codes literal).IsValid ∧
          Refuses name (codes.getD []) literal e := by
      obtain ⟨before, name, codes, literal, after, rfl, hbefore, hrest⟩ := ih h
      exact ⟨token :: before, name, codes, literal, after, rfl,
        List.forall_mem_cons.mpr ⟨hvalid, hbefore⟩, hrest⟩
    cases token with
    | general name => exact hlater trivial h
    | variant name codes literal =>
      rw [bindTokens] at h
      rcases bindingOf_cases name codes literal with ⟨b, hb, hfits, -⟩ | ⟨e', he, hfits, hrefuses⟩
      · simp only [hb] at h
        exact hlater hfits h
      · simp only [he] at h
        obtain rfl := Except.error.inj h
        exact ⟨[], name, codes, literal, ts, rfl, by simp, hfits, hrefuses⟩

/-! ## The tables -/

namespace Scanned

/-- A name is bound in the table of its kind, and in the other table it is not. -/
def Holds (s : Scanned) (name : Text) : Binding → Prop
  | .constant c => s.constants.find? name = some c ∧ s.aliases.find? name = none
  | .reference a => s.constants.find? name = none ∧ s.aliases.find? name = some a

/-- A name has the same entries in the tables of two scans. -/
def SameAt (s s' : Scanned) (name : Text) : Prop :=
  s.constants.find? name = s'.constants.find? name ∧ s.aliases.find? name = s'.aliases.find? name

/-- The names of both tables increase. -/
def Ordered (s : Scanned) : Prop :=
  s.constants.names.Pairwise (· < ·) ∧ s.aliases.names.Pairwise (· < ·)

/-- What a name has been bound to, it is bound to, and to nothing else. -/
theorem holds_bind (s : Scanned) (name : Text) (b : Binding) : (s.bind name b).Holds name b := by
  cases b <;> simp [bind, Holds]

/-- Binding a name leaves the entries of the other names alone. -/
theorem sameAt_bind (s : Scanned) {name other : Text} (h : other ≠ name) (b : Binding) :
    (s.bind name b).SameAt s other := by
  cases b <;> simp [bind, SameAt, Dictionary.find?_insert_of_ne h, Dictionary.find?_erase_of_ne h]

/-- Binding a name keeps the order of both tables. -/
theorem Ordered.bind {s : Scanned} (h : s.Ordered) (name : Text) (b : Binding) :
    (s.bind name b).Ordered := by
  cases b with
  | constant c =>
    exact ⟨Dictionary.pairwise_names_insert name c h.1, Dictionary.pairwise_names_erase name h.2⟩
  | reference a =>
    exact ⟨Dictionary.pairwise_names_erase name h.1, Dictionary.pairwise_names_insert name a h.2⟩

/-- A name is bound to one thing only. -/
theorem Holds.eq {s : Scanned} {name : Text} {b b' : Binding} (h : s.Holds name b)
    (h' : s.Holds name b') : b = b' := by
  cases b <;> cases b' <;> simp_all [Holds]

end Scanned

/-- Tokens without a variant of a name leave its entries alone. -/
theorem sameAt_of_bindTokens {s s' : Scanned} {ts : List Token} (h : bindTokens s ts = .ok s')
    {name : Text} (hname : ∀ codes literal, .variant name codes literal ∉ ts) :
    s'.SameAt s name := by
  induction ts generalizing s with
  | nil =>
    obtain rfl := Except.ok.inj h
    exact ⟨rfl, rfl⟩
  | cons token ts ih =>
    have hlater : ∀ codes literal, .variant name codes literal ∉ ts := fun codes literal hmem =>
      hname codes literal (List.mem_cons_of_mem _ hmem)
    cases token with
    | general other => exact ih h hlater
    | variant other codes literal =>
      have hne : name ≠ other := by
        rintro rfl
        exact hname codes literal List.mem_cons_self
      rw [bindTokens] at h
      split at h
      · rename_i b _
        have hrest := ih h hlater
        have hbind := s.sameAt_bind hne b
        exact ⟨hrest.1.trans hbind.1, hrest.2.trans hbind.2⟩
      · cases h

/-- Binding tokens keeps the order of both tables. -/
theorem ordered_of_bindTokens {s s' : Scanned} {ts : List Token} (h : bindTokens s ts = .ok s')
    (hs : s.Ordered) : s'.Ordered := by
  induction ts generalizing s with
  | nil =>
    obtain rfl := Except.ok.inj h
    exact hs
  | cons token ts ih =>
    cases token with
    | general name => exact ih h hs
    | variant name codes literal =>
      rw [bindTokens] at h
      split at h
      · exact ih h (hs.bind name _)
      · cases h

/-- The last variant of a name decides what the name is bound to. -/
theorem holds_of_bindTokens {s s' : Scanned} {before after : List Token} {name literal : Text}
    {codes : Option Text}
    (h : bindTokens s (before ++ .variant name codes literal :: after) = .ok s')
    (hlast : ∀ codes' literal', .variant name codes' literal' ∉ after) :
    ∃ b, Binds (codes.getD []) literal b ∧ s'.Holds name b := by
  rw [bindTokens_append] at h
  obtain ⟨s₁, -, h⟩ := exists_of_bind_eq_ok h
  rw [bindTokens] at h
  rcases bindingOf_cases name codes literal with ⟨b, hb, -, hbinds⟩ | ⟨e, he, -⟩
  · simp only [hb] at h
    obtain ⟨hconstants, haliases⟩ := sameAt_of_bindTokens h hlast
    have hholds := s₁.holds_bind name b
    refine ⟨b, hbinds, ?_⟩
    cases b <;> exact ⟨hconstants.trans hholds.1, haliases.trans hholds.2⟩
  · simp only [he] at h
    cases h

/-- Among tokens with a variant of a name there is a last one. -/
theorem exists_last_variant {ts : List Token} {name : Text}
    (h : ∃ codes literal, .variant name codes literal ∈ ts) :
    ∃ before codes literal after, ts = before ++ .variant name codes literal :: after ∧
      ∀ codes' literal', .variant name codes' literal' ∉ after := by
  induction ts with
  | nil => simp at h
  | cons token ts ih =>
    by_cases hlater : ∃ codes literal, .variant name codes literal ∈ ts
    · obtain ⟨before, codes, literal, after, rfl, hlast⟩ := ih hlater
      exact ⟨token :: before, codes, literal, after, rfl, hlast⟩
    · obtain ⟨codes, literal, hmem⟩ := h
      rcases List.mem_cons.mp hmem with rfl | hmem
      · exact ⟨[], codes, literal, ts, rfl, fun codes' literal' hmem =>
          hlater ⟨codes', literal', hmem⟩⟩
      · exact absurd ⟨codes, literal, hmem⟩ hlater

/-- A name that is bound is in one of the two tables and not in the other. -/
theorem Scanned.Holds.mem_names {s : Scanned} {name : Text} {b : Binding} (h : s.Holds name b) :
    (name ∈ s.constants.names ∧ name ∉ s.aliases.names) ∨
      name ∉ s.constants.names ∧ name ∈ s.aliases.names := by
  simp only [← Dictionary.exists_find?_eq_some_iff]
  cases b with
  | constant c => exact Or.inl ⟨⟨c, h.1⟩, by simp [h.2]⟩
  | reference a => exact Or.inr ⟨by simp [h.1], ⟨a, h.2⟩⟩

/-- The tables of the names in a text. There are tables exactly if every parameter of the text is
valid. Then no name is in both tables, the names in them are those of the variants, each once, and
each name is bound to what its last variant binds it to and to nothing else. If there are no tables,
the first parameter that is not valid has been refused. -/
theorem tables_of_scan (t : Text) :
    ((∃ s, scan t = .ok s) ↔ ∀ u ∈ tokens t, u.IsValid) ∧
    (∀ s, scan t = .ok s →
      s.Ordered ∧
      (∀ name ∈ s.constants.names, name ∉ s.aliases.names) ∧
      (∀ name, name ∈ s.constants.names ∨ name ∈ s.aliases.names ↔
        ∃ codes literal, .variant name codes literal ∈ tokens t) ∧
      ∀ before name codes literal after,
        tokens t = before ++ .variant name codes literal :: after →
        (∀ codes' literal', .variant name codes' literal' ∉ after) →
        ∀ b, s.Holds name b ↔ Binds (codes.getD []) literal b) ∧
    ∀ e, scan t = .error e →
      ∃ before name codes literal after,
        tokens t = before ++ .variant name codes literal :: after ∧
        (∀ u ∈ before, u.IsValid) ∧ ¬(Token.variant name codes literal).IsValid ∧
        Refuses name (codes.getD []) literal e := by
  refine ⟨exists_bindTokens_iff, fun s h => ?_, fun e h => exists_refused_of_bindTokens h⟩
  have hbound {name : Text} (hname : ∃ codes literal, .variant name codes literal ∈ tokens t) :
      ∃ b, s.Holds name b := by
    obtain ⟨before, codes, literal, after, htokens, hlast⟩ := exists_last_variant hname
    rw [scan, htokens] at h
    obtain ⟨b, -, hholds⟩ := holds_of_bindTokens h hlast
    exact ⟨b, hholds⟩
  have hfree {name : Text} (hname : ¬∃ codes literal, .variant name codes literal ∈ tokens t) :
      name ∉ s.constants.names ∧ name ∉ s.aliases.names := by
    obtain ⟨hconstants, haliases⟩ :=
      sameAt_of_bindTokens h fun codes literal hmem => hname ⟨codes, literal, hmem⟩
    simp only [← Dictionary.exists_find?_eq_some_iff, hconstants, haliases]
    simp [Dictionary.find?]
  refine ⟨ordered_of_bindTokens h ⟨.nil, .nil⟩, fun name hname => ?_, fun name => ?_, ?_⟩
  · by_cases hvariant : ∃ codes literal, .variant name codes literal ∈ tokens t
    · obtain ⟨b, hb⟩ := hbound hvariant
      rcases hb.mem_names with ⟨-, hnot⟩ | ⟨hnot, -⟩
      · exact hnot
      · exact absurd hname hnot
    · exact (hfree hvariant).2
  · constructor
    · intro hname
      refine Classical.byContradiction fun hvariant => ?_
      exact hname.elim (hfree hvariant).1 (hfree hvariant).2
    · intro hvariant
      obtain ⟨b, hb⟩ := hbound hvariant
      rcases hb.mem_names with ⟨hin, -⟩ | ⟨-, hin⟩
      · exact Or.inl hin
      · exact Or.inr hin
  · intro before name codes literal after htokens hlast b
    rw [scan, htokens] at h
    obtain ⟨b', hbinds, hholds⟩ := holds_of_bindTokens h hlast
    constructor
    · intro hb
      rw [hb.eq hholds]
      exact hbinds
    · intro hb
      rw [hb.eq hbinds]
      exact hholds

/-- A variant that is not valid is refused also if a later one has its name. -/
example : scan "<a.iz:1> <a:1>".toList = .error (.unknownCode ['a'] 'z') := rfl

end FeatureDoc.Param
