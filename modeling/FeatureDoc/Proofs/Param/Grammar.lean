/-
# The grammar of parameters

A parameter is written `<name>`, `<name:literal>` or `<name.codes:literal>`. Its name is a run of
word characters that is not empty, its codes are such a run that may be empty, and its literal goes
up to the first `>`. A `<` is open if no backslash stands right before it.

* `tokenAfter?_eq_some_iff` : a token is found exactly where one is written;
* `segments_induction` : a text is read token by token, and where there is none, character by
  character;
* `places_of_tokens` : the tokens of a text stand at open `<`, do not overlap, and leave out no
  token that stands at an open `<` outside them; the general parameters are those at any open `<`.
-/
import FeatureDoc.Param.Token
import Mathlib.Data.List.TakeWhile

namespace FeatureDoc.Param

/-! ## Legal tokens -/

namespace Token

/-- The codes of a parameter. -/
def codes : Token → Text
  | general _ => []
  | variant _ codes _ => codes.getD []

/-- The literal of a parameter. -/
def literal : Token → Text
  | general _ => []
  | variant _ _ literal => literal

/-- A token that the grammar allows. -/
structure IsLegal (t : Token) : Prop where
  name_ne_nil : t.name ≠ []
  isWord_name : ∀ c ∈ t.name, Text.isWord c = true
  isWord_codes : ∀ c ∈ t.codes, Text.isWord c = true
  /-- The literal ends at the first `>`. -/
  notMem_literal : '>' ∉ t.literal

instance : DecidablePred IsLegal := fun t =>
  decidable_of_iff
    (t.name ≠ [] ∧ t.name.all Text.isWord = true ∧ t.codes.all Text.isWord = true ∧
      '>' ∉ t.literal)
    ⟨fun ⟨hne, hname, hcodes, hliteral⟩ =>
        ⟨hne, List.all_eq_true.mp hname, List.all_eq_true.mp hcodes, hliteral⟩,
      fun h => ⟨h.name_ne_nil, List.all_eq_true.mpr h.isWord_name,
        List.all_eq_true.mpr h.isWord_codes, h.notMem_literal⟩⟩

/-- The general parameter with the name of a legal token is legal. -/
theorem IsLegal.general {t : Token} (h : t.IsLegal) : (Token.general t.name).IsLegal :=
  ⟨h.name_ne_nil, h.isWord_name, fun _ hc => absurd hc List.not_mem_nil, List.not_mem_nil⟩

end Token

/-- A token ends with `>`. -/
theorem source_eq_concat (tok : Token) : ∃ body, tok.source = body ++ ['>'] := by
  cases tok with
  | general name => exact ⟨_, rfl⟩
  | variant name codes literal => cases codes <;> exact ⟨_, rfl⟩

/-! ## Where a token is found -/

/-- A run of word characters ends where another character follows. -/
theorem takeWhile_isWord {w : Text} (hw : ∀ c ∈ w, Text.isWord c = true) {c : Char}
    (hc : Text.isWord c = false) (rest : Text) :
    (w ++ c :: rest).takeWhile Text.isWord = w := by
  rw [List.takeWhile_append_of_pos hw, List.takeWhile_cons_of_neg (by simp [hc]), List.append_nil]

/-- What follows a run of word characters. -/
theorem dropWhile_isWord {w : Text} (hw : ∀ c ∈ w, Text.isWord c = true) {c : Char}
    (hc : Text.isWord c = false) (rest : Text) :
    (w ++ c :: rest).dropWhile Text.isWord = c :: rest := by
  rw [List.dropWhile_append_of_pos hw, List.dropWhile_cons_of_neg (by simp [hc])]

/-- A variant is found exactly if there is a `>`, and its literal goes up to the first one. -/
theorem variantBefore?_eq_some_iff {name t : Text} {codes : Option Text} {tok : Token} :
    variantBefore? name codes t = some tok ↔
      ∃ literal rest, tok = .variant name codes literal ∧ '>' ∉ literal ∧
        t = literal ++ '>' :: rest := by
  rw [variantBefore?, Option.map_eq_some_iff]
  constructor
  · rintro ⟨⟨literal, rest⟩, hcut, rfl⟩
    obtain ⟨rfl, hclosed⟩ := Text.cutAt?_eq_some_iff.mp hcut
    exact ⟨literal, rest, rfl, hclosed, rfl⟩
  · rintro ⟨literal, rest, rfl, hclosed, rfl⟩
    exact ⟨(literal, rest), Text.cutAt?_eq_some_iff.mpr ⟨rfl, hclosed⟩, rfl⟩

/-- A token that is found is legal. -/
theorem isLegal_of_tokenAfter? {t : Text} {tok : Token} (h : tokenAfter? t = some tok) :
    tok.IsLegal := by
  have hword : ∀ u : Text, ∀ c ∈ u.takeWhile Text.isWord, Text.isWord c = true :=
    fun _ _ hc => List.mem_takeWhile_imp hc
  unfold tokenAfter? at h
  simp only at h
  split at h
  · cases h
  · rename_i hname
    split at h
    · obtain rfl := Option.some.inj h
      exact ⟨hname, hword t, fun _ hc => absurd hc List.not_mem_nil, List.not_mem_nil⟩
    · obtain ⟨literal, _, rfl, hclosed, -⟩ := variantBefore?_eq_some_iff.mp h
      exact ⟨hname, hword t, fun _ hc => absurd hc List.not_mem_nil, hclosed⟩
    · rename_i rest _
      split at h
      · obtain ⟨literal, _, rfl, hclosed, -⟩ := variantBefore?_eq_some_iff.mp h
        exact ⟨hname, hword t, hword rest, hclosed⟩
      · cases h
    · cases h

/-- A legal token is found behind its `<`, whatever follows it. -/
theorem tokenAfter?_of_source {t : Text} {tok : Token} (h : tok.IsLegal) (rest : Text)
    (ht : '<' :: t = tok.source ++ rest) : tokenAfter? t = some tok := by
  cases tok with
  | general name =>
    have hname : ∀ c ∈ name, Text.isWord c = true := h.isWord_name
    obtain rfl : t = name ++ '>' :: rest := by simpa [Token.source] using ht
    rw [tokenAfter?, takeWhile_isWord hname rfl, dropWhile_isWord hname rfl]
    exact if_neg h.name_ne_nil
  | variant name codes literal =>
    have hname : ∀ c ∈ name, Text.isWord c = true := h.isWord_name
    cases codes with
    | none =>
      obtain rfl : t = name ++ ':' :: (literal ++ '>' :: rest) := by
        simpa [Token.source] using ht
      rw [tokenAfter?, takeWhile_isWord hname rfl, dropWhile_isWord hname rfl]
      exact (if_neg h.name_ne_nil).trans
        (variantBefore?_eq_some_iff.mpr ⟨literal, rest, rfl, h.notMem_literal, rfl⟩)
    | some codes =>
      have hcodes : ∀ c ∈ codes, Text.isWord c = true := h.isWord_codes
      obtain rfl : t = name ++ '.' :: (codes ++ ':' :: (literal ++ '>' :: rest)) := by
        simpa [Token.source] using ht
      rw [tokenAfter?, takeWhile_isWord hname rfl, dropWhile_isWord hname rfl]
      refine (if_neg h.name_ne_nil).trans ?_
      simp only [takeWhile_isWord hcodes (c := ':') rfl, dropWhile_isWord hcodes (c := ':') rfl]
      exact variantBefore?_eq_some_iff.mpr ⟨literal, rest, rfl, h.notMem_literal, rfl⟩

/-- A token is found exactly if a legal one stands, as it is written, at the `<`. -/
theorem tokenAfter?_eq_some_iff {t : Text} {tok : Token} :
    tokenAfter? t = some tok ↔ tok.IsLegal ∧ ∃ rest, '<' :: t = tok.source ++ rest :=
  ⟨fun h => ⟨isLegal_of_tokenAfter? h, source_append_of_tokenAfter? h⟩,
    fun ⟨hlegal, rest, ht⟩ => tokenAfter?_of_source hlegal rest ht⟩

/-- The name of a general parameter is found exactly where this parameter is. -/
theorem generalAfter?_eq_some_iff {t name : Text} :
    generalAfter? t = some name ↔ tokenAfter? t = some (.general name) := by
  constructor
  · intro h
    unfold generalAfter? at h
    simp only at h
    split at h
    · rename_i hfound
      obtain rfl := Option.some.inj h
      obtain ⟨rest, hrest⟩ := List.head?_eq_some_iff.mp hfound.2
      refine tokenAfter?_of_source ⟨hfound.1, ?_, ?_, List.not_mem_nil⟩ rest ?_
      · exact fun c hc => List.mem_takeWhile_imp hc
      · exact fun _ hc => absurd hc List.not_mem_nil
      · have hwhole : t.takeWhile Text.isWord ++ t.dropWhile Text.isWord = t :=
          List.takeWhile_append_dropWhile
        rw [hrest] at hwhole
        simp [Token.source, hwhole]
    · cases h
  · intro h
    obtain ⟨hlegal, rest, ht⟩ := tokenAfter?_eq_some_iff.mp h
    have hname : ∀ c ∈ name, Text.isWord c = true := hlegal.isWord_name
    obtain rfl : t = name ++ '>' :: rest := by simpa [Token.source] using ht
    rw [generalAfter?, takeWhile_isWord hname rfl, dropWhile_isWord hname rfl]
    exact if_pos ⟨hlegal.name_ne_nil, rfl⟩

/-- Where no token is found there is no general parameter. -/
theorem generalAfter?_eq_none {t : Text} (h : tokenAfter? t = none) : generalAfter? t = none := by
  cases hfound : generalAfter? t with
  | none => rfl
  | some name => cases h.symm.trans (generalAfter?_eq_some_iff.mp hfound)

/-! ## Reading a text -/

/-- The characters that the last token covers are passed over. -/
theorem segmentsFrom_append (w rest : Text) :
    segmentsFrom w.length false (w ++ rest) = segmentsFrom 0 false rest := by
  induction w with
  | nil => rfl
  | cons c w ih => exact ih

/-- A token that stands at an open `<` is a segment. -/
theorem segmentsFrom_source {tok : Token} (h : tok.IsLegal) (rest : Text) :
    segmentsFrom 0 false (tok.source ++ rest) = .token tok :: segmentsFrom 0 false rest := by
  obtain ⟨body, hbody⟩ := source_eq_cons tok
  have hfound : tokenAfter? (body ++ rest) = some tok :=
    tokenAfter?_of_source h rest (by rw [hbody, List.cons_append])
  rw [hbody, List.cons_append, segmentsFrom, if_pos ⟨rfl, by decide⟩, hfound]
  simp only [hbody, List.length_cons, Nat.add_sub_cancel, segmentsFrom_append]

/-- What is looked for at an open `<` only is not found elsewhere. -/
theorem ite_open_eq_none {α : Type} {escaped : Bool} {c : Char} {found : Option α}
    (h : c = '<' → escaped = false → found = none) :
    (if c = '<' ∧ ¬escaped then found else none) = none := by
  split
  · rename_i hopen
    exact h hopen.1 (by simpa using hopen.2)
  · rfl

/-- A character at which no token is found is a segment. -/
theorem segmentsFrom_cons {escaped : Bool} {c : Char} {rest : Text}
    (h : c = '<' → escaped = false → tokenAfter? rest = none) :
    segmentsFrom 0 escaped (c :: rest) = .plain c :: segmentsFrom 0 (c = '\\') rest := by
  rw [segmentsFrom, ite_open_eq_none h]

/-- A text is read token by token, and where no token is found, character by character. -/
@[elab_as_elim]
theorem segments_induction {motive : Bool → Text → Prop} (nil : ∀ escaped, motive escaped [])
    (token : ∀ (tok : Token) rest, tok.IsLegal → motive false rest →
      motive false (tok.source ++ rest))
    (plain : ∀ escaped c rest, (c = '<' → escaped = false → tokenAfter? rest = none) →
      motive (c = '\\') rest → motive escaped (c :: rest))
    (escaped : Bool) (t : Text) : motive escaped t := by
  induction hn : t.length using Nat.strong_induction_on generalizing escaped t with
  | _ n ih =>
    cases t with
    | nil => exact nil escaped
    | cons c rest =>
      by_cases hfound : c = '<' ∧ escaped = false ∧ tokenAfter? rest ≠ none
      · obtain ⟨rfl, rfl, hsome⟩ := hfound
        obtain ⟨tok, htok⟩ := Option.ne_none_iff_exists'.mp hsome
        obtain ⟨hlegal, after, hafter⟩ := tokenAfter?_eq_some_iff.mp htok
        obtain ⟨body, hbody⟩ := source_eq_cons tok
        rw [hafter] at hn ⊢
        refine token tok after hlegal (ih _ ?_ false after rfl)
        rw [← hn, hbody, List.length_append, List.length_cons]
        omega
      · refine plain escaped c rest (fun hc he => ?_) (ih _ ?_ _ rest rfl)
        · by_contra hne
          exact hfound ⟨hc, he, hne⟩
        · rw [← hn, List.length_cons]
          omega

/-! ## Where tokens stand -/

/-- Whether a text ends with a backslash, so that a `<` right behind it is not open. -/
def escapes (before : Text) : Bool := before.getLast? = some '\\'

/-- A legal token stands in a text right behind one of its beginnings, at an open `<`. -/
structure Token.StandsIn (tok : Token) (before t : Text) : Prop where
  isLegal : tok.IsLegal
  isOpen : escapes before = false
  written : before ++ tok.source <+: t

/-- A `<` is open unless the character before it is a backslash. -/
@[simp] theorem escapes_concat (before : Text) (c : Char) :
    escapes (before ++ [c]) = decide (c = '\\') := by
  rw [escapes, List.getLast?_concat]
  exact decide_eq_decide.mpr Option.some_inj

/-- A `<` right behind a token is open. -/
@[simp] theorem escapes_append_source (before : Text) (tok : Token) :
    escapes (before ++ tok.source) = false := by
  obtain ⟨body, hbody⟩ := source_eq_concat tok
  rw [hbody, ← List.append_assoc, escapes_concat]
  rfl

/-- A token stands right behind a text exactly if it is found at an open `<` there. -/
theorem standsIn_cons_iff {tok : Token} {before rest : Text} {c : Char} :
    tok.StandsIn before (before ++ c :: rest) ↔
      c = '<' ∧ escapes before = false ∧ tokenAfter? rest = some tok := by
  obtain ⟨body, hbody⟩ := source_eq_cons tok
  constructor
  · rintro ⟨hlegal, hopen, hwritten⟩
    rw [List.prefix_append_right_inj] at hwritten
    obtain ⟨after, hafter⟩ := hwritten
    obtain rfl : c = '<' := by
      rw [hbody] at hafter
      exact (List.cons.inj hafter).1.symm
    exact ⟨rfl, hopen, tokenAfter?_of_source hlegal after hafter.symm⟩
  · rintro ⟨rfl, hopen, hfound⟩
    obtain ⟨hlegal, after, hafter⟩ := tokenAfter?_eq_some_iff.mp hfound
    refine ⟨hlegal, hopen, ?_⟩
    rw [List.prefix_append_right_inj]
    exact ⟨after, hafter.symm⟩

/-- No token stands behind the end of a text. -/
theorem not_standsIn_self {tok : Token} {before front : Text} (hfront : before <+: front) :
    ¬tok.StandsIn front before := by
  intro h
  obtain ⟨body, hbody⟩ := source_eq_cons tok
  have hlength := h.written.length_le
  have hlonger := hfront.length_le
  rw [List.length_append, hbody, List.length_cons] at hlength
  omega

/-! ## The places that are reported -/

/-- The places that are reported for the tokens of a text which follows another one. -/
def placesBehind (before t : Text) : List Located :=
  locateFrom (Text.byteSize before) (segmentsFrom 0 (escapes before) t)

/-- A token at an open `<` is reported. -/
theorem placesBehind_source {before : Text} {tok : Token} (hlegal : tok.IsLegal)
    (hopen : escapes before = false) (rest : Text) :
    placesBehind before (tok.source ++ rest) =
      ⟨tok, Text.byteSize before, Text.byteSize (before ++ tok.source)⟩ ::
        placesBehind (before ++ tok.source) rest := by
  rw [placesBehind, hopen, segmentsFrom_source hlegal, placesBehind, escapes_append_source,
    Text.byteSize_append]
  rfl

/-- A character at which no token is found is passed over. -/
theorem placesBehind_cons {before rest : Text} {c : Char}
    (h : c = '<' → escapes before = false → tokenAfter? rest = none) :
    placesBehind before (c :: rest) = placesBehind (before ++ [c]) rest := by
  rw [placesBehind, segmentsFrom_cons h, placesBehind, escapes_concat, Text.byteSize_append]
  rfl

/-- No place is reported before the given number of bytes. -/
theorem le_start_of_mem_locateFrom {n : Nat} {segs : List Segment} {p : Located}
    (h : p ∈ locateFrom n segs) : n ≤ p.start := by
  induction segs generalizing n with
  | nil => cases h
  | cons seg rest ih =>
    cases seg with
    | plain c => exact (Nat.le_add_right n _).trans (ih h)
    | token tok =>
      rcases List.mem_cons.mp h with rfl | hrest
      · exact Nat.le_refl n
      · exact (Nat.le_add_right n _).trans (ih hrest)

/-- Places do not overlap. -/
theorem pairwise_locateFrom (n : Nat) (segs : List Segment) :
    (locateFrom n segs).Pairwise fun p q => p.stop ≤ q.start := by
  induction segs generalizing n with
  | nil => exact List.Pairwise.nil
  | cons seg rest ih =>
    cases seg with
    | plain c => exact ih _
    | token tok => exact List.pairwise_cons.mpr ⟨fun q hq => le_start_of_mem_locateFrom hq, ih _⟩

/-- Every token has its place. -/
theorem map_token_locateFrom (n : Nat) (segs : List Segment) :
    (locateFrom n segs).map Located.token = segs.filterMap Segment.token? := by
  induction segs generalizing n with
  | nil => rfl
  | cons seg rest ih =>
    cases seg with
    | plain c => exact ih _
    | token tok => exact congrArg (tok :: ·) (ih _)

/-- A token that is reported stands where it is reported. -/
theorem standsIn_of_mem_placesBehind {before t : Text} {p : Located}
    (h : p ∈ placesBehind before t) :
    ∃ front, p.token.StandsIn front (before ++ t) ∧ p.start = Text.byteSize front ∧
      p.stop = Text.byteSize (front ++ p.token.source) := by
  generalize hescaped : escapes before = escaped
  induction escaped, t using segments_induction generalizing before with
  | nil => cases h
  | token tok rest hlegal ih =>
    rw [placesBehind_source hlegal hescaped] at h
    rcases List.mem_cons.mp h with rfl | hrest
    · refine ⟨before, ⟨hlegal, hescaped, ?_⟩, rfl, rfl⟩
      rw [List.prefix_append_right_inj]
      exact List.prefix_append _ _
    · have hfront := ih hrest (escapes_append_source before tok)
      rwa [List.append_assoc] at hfront
  | plain escaped c rest hnone ih =>
    subst hescaped
    rw [placesBehind_cons hnone] at h
    have hfront := ih h (escapes_concat before c)
    rwa [List.append_assoc] at hfront

/-- A beginning of a text that reaches up to a character ends right before it or goes beyond it. -/
theorem eq_or_concat_prefix {before front rest : Text} {c : Char} (hfront : before <+: front)
    (hwhole : front <+: before ++ c :: rest) : front = before ∨ before ++ [c] <+: front := by
  obtain ⟨between, rfl⟩ := hfront
  cases between with
  | nil => exact Or.inl (List.append_nil before)
  | cons d between =>
    right
    rw [List.prefix_append_right_inj] at hwhole ⊢
    obtain ⟨rfl, -⟩ := List.cons_prefix_cons.mp hwhole
    exact List.cons_prefix_cons.mpr ⟨rfl, List.nil_prefix⟩

/-- A beginning of a text has no more bytes than the text. -/
theorem byteSize_le {s t : Text} (h : s <+: t) : Text.byteSize s ≤ Text.byteSize t := by
  obtain ⟨rest, rfl⟩ := h
  rw [Text.byteSize_append]
  exact Nat.le_add_right _ _

/-- A beginning that is not all of a text has fewer bytes than the text. -/
theorem byteSize_lt {s t : Text} (h : s <+: t) (hne : s ≠ t) :
    Text.byteSize s < Text.byteSize t := by
  obtain ⟨rest, rfl⟩ := h
  cases rest with
  | nil => exact absurd (List.append_nil s).symm hne
  | cons c rest =>
    rw [Text.byteSize_append, Text.byteSize]
    have hpos := c.utf8Size_pos
    omega

/-- A token that stands in a text begins in a place that is reported. -/
theorem exists_mem_placesBehind {before front t : Text} {tok : Token} (hfront : before <+: front)
    (h : tok.StandsIn front (before ++ t)) :
    ∃ p ∈ placesBehind before t,
      p.start ≤ Text.byteSize front ∧ Text.byteSize front < p.stop := by
  generalize hescaped : escapes before = escaped
  induction escaped, t using segments_induction generalizing before with
  | nil =>
    rw [List.append_nil] at h
    exact absurd h (not_standsIn_self hfront)
  | token first rest hlegal ih =>
    rw [placesBehind_source hlegal hescaped]
    rw [← List.append_assoc] at h
    by_cases hlater : before ++ first.source <+: front
    · obtain ⟨p, hp, hplace⟩ := ih hlater h (escapes_append_source before first)
      exact ⟨p, List.mem_cons_of_mem _ hp, hplace⟩
    · -- it begins inside the first token
      refine ⟨_, List.mem_cons_self, byteSize_le hfront, byteSize_lt ?_ ?_⟩
      · have hwhole := (List.prefix_append front tok.source).trans h.written
        rcases List.prefix_or_prefix_of_prefix hwhole (List.prefix_append _ rest) with hin | hout
        · exact hin
        · exact absurd hout hlater
      · rintro rfl
        exact hlater (List.prefix_refl _)
  | plain escaped c rest hnone ih =>
    subst hescaped
    rw [placesBehind_cons hnone]
    have hwhole := (List.prefix_append front tok.source).trans h.written
    rcases eq_or_concat_prefix hfront hwhole with rfl | hlater
    · obtain ⟨hc, hopen, hfound⟩ := standsIn_cons_iff.mp h
      cases (hnone hc hopen).symm.trans hfound
    · rw [List.append_cons] at h
      exact ih hlater h (escapes_concat before c)

/-! ## General parameters -/

/-- A token stands right behind a text or behind the character that follows. -/
theorem standsIn_split {before front rest : Text} {c : Char} {tok : Token} :
    before <+: front ∧ tok.StandsIn front (before ++ c :: rest) ↔
      (front = before ∧ tok.StandsIn before (before ++ c :: rest)) ∨
        (before ++ [c] <+: front ∧ tok.StandsIn front (before ++ [c] ++ rest)) := by
  rw [← List.append_cons]
  constructor
  · rintro ⟨hfront, h⟩
    have hwhole := (List.prefix_append front tok.source).trans h.written
    rcases eq_or_concat_prefix hfront hwhole with rfl | hlater
    · exact Or.inl ⟨rfl, h⟩
    · exact Or.inr ⟨hlater, h⟩
  · rintro (⟨rfl, h⟩ | ⟨hlater, h⟩)
    · exact ⟨List.prefix_refl _, h⟩
    · exact ⟨(List.prefix_append before [c]).trans hlater, h⟩

/-- The general parameter that begins with the first character of a text. -/
theorem generalsFrom_cons (before : Text) (c : Char) (rest : Text) :
    ((∀ name, ¬(Token.general name).StandsIn before (before ++ c :: rest)) ∧
      generalsFrom (escapes before) (c :: rest) = generalsFrom (escapes (before ++ [c])) rest) ∨
    ∃ name, (∀ other, (Token.general other).StandsIn before (before ++ c :: rest) ↔ other = name) ∧
      generalsFrom (escapes before) (c :: rest) =
        name :: generalsFrom (escapes (before ++ [c])) rest := by
  have hstands : ∀ name, (Token.general name).StandsIn before (before ++ c :: rest) ↔
      (if c = '<' ∧ ¬escapes before then generalAfter? rest else none) = some name := by
    intro name
    rw [standsIn_cons_iff, ← generalAfter?_eq_some_iff]
    split
    · rename_i hopen
      simp [hopen.1, hopen.2]
    · rename_i hopen
      simp only [reduceCtorEq, iff_false]
      rintro ⟨hc, he, -⟩
      exact hopen ⟨hc, by simp [he]⟩
  rw [generalsFrom, escapes_concat]
  simp only [hstands]
  cases (if c = '<' ∧ ¬escapes before then generalAfter? rest else none) with
  | none => exact Or.inl ⟨fun name => Option.some_ne_none name ∘ Eq.symm, rfl⟩
  | some name => exact Or.inr ⟨name, fun other => by simp [eq_comm], rfl⟩

/-- The general parameters of a text which follows another one are those at its open `<`. -/
theorem exists_general_places (before t : Text) :
    ∃ places : List (Text × Text), places.Pairwise (fun p q => p.1.length < q.1.length) ∧
      (∀ front name, (front, name) ∈ places ↔
        before <+: front ∧ (Token.general name).StandsIn front (before ++ t)) ∧
      generalsFrom (escapes before) t = places.map Prod.snd := by
  induction t generalizing before with
  | nil =>
    refine ⟨[], List.Pairwise.nil, fun front name => ⟨fun h => absurd h List.not_mem_nil, ?_⟩, rfl⟩
    rintro ⟨hfront, h⟩
    rw [List.append_nil] at h
    exact absurd h (not_standsIn_self hfront)
  | cons c rest ih =>
    obtain ⟨places, hordered, hmem, hgenerals⟩ := ih (before ++ [c])
    rcases generalsFrom_cons before c rest with ⟨hnone, hrest⟩ | ⟨name, hname, hrest⟩
    · refine ⟨places, hordered, fun front other => ?_, hrest.trans hgenerals⟩
      rw [standsIn_split, hmem, or_iff_right fun h => hnone other h.2]
    · refine ⟨(before, name) :: places, List.pairwise_cons.mpr ⟨?_, hordered⟩, ?_, ?_⟩
      · rintro ⟨front, other⟩ hlater
        have hlength := ((hmem front other).mp hlater).1.length_le
        rw [List.length_append] at hlength
        exact hlength
      · intro front other
        rw [standsIn_split, List.mem_cons, hmem, hname, Prod.mk.injEq]
      · rw [hrest, hgenerals, List.map_cons]

/-! ## All tokens of a text -/

/-- The places that are reported for a text hold its tokens from left to right, none of them
overlaps another one, and every token that stands in the text begins in one of them. -/
structure Tokenizes (t : Text) (places : List Located) : Prop where
  nonempty : ∀ p ∈ places, p.start < p.stop
  ordered : places.Pairwise fun p q => p.stop ≤ q.start
  sound : ∀ p ∈ places, ∃ before, p.token.StandsIn before t ∧ p.start = Text.byteSize before ∧
    p.stop = Text.byteSize (before ++ p.token.source)
  complete : ∀ before (tok : Token), tok.StandsIn before t →
    ∃ p ∈ places, p.start ≤ Text.byteSize before ∧ Text.byteSize before < p.stop

/-- The tokens of a text are reported with their places. Its general parameters are from left to
right those that stand at the open `<` of the text, also in the literals of other parameters. -/
theorem places_of_tokens (t : Text) :
    (locate t).map Located.token = tokens t ∧ Tokenizes t (locate t) ∧
    ∃ places : List (Text × Text), places.Pairwise (fun p q => p.1.length < q.1.length) ∧
      (∀ before name, (before, name) ∈ places ↔ (Token.general name).StandsIn before t) ∧
      generals t = places.map Prod.snd := by
  have hsound : ∀ p ∈ locate t, ∃ before, p.token.StandsIn before t ∧
      p.start = Text.byteSize before ∧ p.stop = Text.byteSize (before ++ p.token.source) :=
    fun p hp => standsIn_of_mem_placesBehind (show p ∈ placesBehind [] t from hp)
  refine ⟨map_token_locateFrom 0 (segments t), ⟨fun p hp => ?_, pairwise_locateFrom 0 (segments t),
    hsound, fun before tok h => ?_⟩, ?_⟩
  · obtain ⟨before, -, hstart, hstop⟩ := hsound p hp
    obtain ⟨body, hbody⟩ := source_eq_cons p.token
    rw [hstart, hstop]
    refine byteSize_lt (List.prefix_append _ _) fun heq => ?_
    rw [hbody] at heq
    cases List.self_eq_append_right.mp heq
  · exact exists_mem_placesBehind List.nil_prefix h
  · obtain ⟨places, hordered, hmem, hgenerals⟩ := exists_general_places [] t
    refine ⟨places, hordered, fun before name => ?_, hgenerals⟩
    rw [hmem, and_iff_right List.nil_prefix, List.nil_append]

end FeatureDoc.Param
