/-
# The definition that is found for a step

A registry is made of a list of definitions one by one, and its patterns are sorted. What it finds
for a step can be said of the list alone.

* `Registry.get?_foldl_add` : the definition of a type and name is the first one in the list;
* `Registry.patterns_foldl_add` : the patterns are those of the definitions at their places;
* `Registry.find?_ofList` : a definition with the text of the step, or else the best pattern.
-/
import FeatureDoc.Registry.Basic
import FeatureDoc.Proofs.Lists
import FeatureDoc.Proofs.Pattern.Specificity
import Mathlib.Data.List.Induction

namespace FeatureDoc

namespace Registry

/-! ## The order of patterns -/

/-- A pattern is tried before another unless the other is more specific. -/
theorem triedBefore_eq_true_iff {p q : Pattern} {d e : Definition} {ps qs : List Pattern.Piece}
    (hp : Pattern.compile d.name = .ok p) (hps : Pattern.pieces d.name = .ok ps)
    (hq : Pattern.compile e.name = .ok q) (hqs : Pattern.pieces e.name = .ok qs) :
    triedBefore (p, d) (q, e) = true ↔ ¬Pattern.MoreSpecific qs ps := by
  rw [← Pattern.compare_specificity_eq_gt_iff hq hqs hp hps,
    Pattern.Specificity.compare_eq_gt_iff, triedBefore, bne_iff_ne]

/-- The order in which patterns are tried is transitive. -/
theorem triedBefore_trans (a b c : Pattern × Definition) (hab : triedBefore a b = true)
    (hbc : triedBefore b c = true) : triedBefore a c = true := by
  simp only [triedBefore, bne_iff_ne, Ne, Pattern.Specificity.compare_eq_lt_iff] at *
  omega

/-- Of two patterns one is tried before the other. -/
theorem triedBefore_total (a b : Pattern × Definition) :
    (triedBefore a b || triedBefore b a) = true := by
  simp only [triedBefore, Bool.or_eq_true, bne_iff_ne, Ne, Pattern.Specificity.compare_eq_lt_iff]
  omega

/-! ## What a registry holds -/

/-- Whether a name is the text of a step or can be read as a pattern. -/
def admits (name : Text) : Bool := !Pattern.isPattern name || (Pattern.compile name).isOk

/-- A registry that takes up a definition has it for its type and name, unless it has one already or
refuses the name. -/
theorem get?_add (r : Registry) (d : Definition) (type : StepType) (name : Text) :
    (r.add d).get? type name = (r.get? type name).or
      (if admits d.name = true ∧ d.type = type ∧ d.name = name then some d else none) := by
  have hconcat {r' : Registry} (h : r'.definitions = r.definitions ++ [d]) :
      r'.get? type name =
        (r.get? type name).or (if d.type = type ∧ d.name = name then some d else none) := by
    rw [get?, h, List.find?_append, List.find?_singleton, get?]
    simp only [decide_eq_true_eq]
  unfold add
  cases hkept : r.get? d.type d.name with
  | some kept =>
    -- what is asked for is there already, or it is something else
    by_cases hkey : admits d.name = true ∧ d.type = type ∧ d.name = name
    · obtain ⟨-, rfl, rfl⟩ := hkey
      rw [hkept]
      exact hkept
    · rw [if_neg hkey, Option.or_none]
      rfl
  | none =>
    cases hpattern : Pattern.isPattern d.name with
    | false =>
      have hadmits : admits d.name = true := by rw [admits, hpattern]; rfl
      simpa [hadmits] using hconcat rfl
    | true =>
      cases hcompile : Pattern.compile d.name with
      | ok p =>
        have hadmits : admits d.name = true := by rw [admits, hcompile, Bool.or_comm]; rfl
        simpa [hadmits] using hconcat rfl
      | error cause =>
        have hadmits : admits d.name = false := by rw [admits, hpattern, hcompile]; rfl
        simp [hadmits]
        rfl

/-- The definition of a type and name is the first one in the list, if the registry does not refuse
the name. -/
theorem get?_foldl_add (ds : List Definition) (type : StepType) (name : Text) :
    (ds.foldl add empty).get? type name =
      if admits name then ds.find? fun d => d.type = type ∧ d.name = name else none := by
  induction ds using List.reverseRecOn with
  | nil => simp [empty, get?]
  | append_singleton ds d ih =>
    rw [List.foldl_concat, get?_add, ih, List.find?_append, List.find?_singleton]
    by_cases hadmits : admits name = true
    · by_cases hkey : d.type = type ∧ d.name = name
      · obtain ⟨rfl, rfl⟩ := hkey
        simp [hadmits]
      · simp [hadmits, hkey]
    · by_cases hname : d.name = name
      · subst hname
        simp [hadmits]
      · simp [hadmits, hname]

/-! ## Patterns at their places -/

/-- The pattern that the name of a definition is, with the definition. -/
def patternOf? (d : Definition) : Option (Pattern × Definition) :=
  if Pattern.isPattern d.name then (Pattern.compile d.name).toOption.map (·, d) else none

/-- A name that a registry refuses is no pattern. -/
theorem patternOf?_eq_none {d : Definition} (h : admits d.name = false) : patternOf? d = none := by
  obtain ⟨hpattern, hcompile⟩ := Bool.or_eq_false_iff.mp h
  rw [patternOf?]
  cases hread : Pattern.compile d.name with
  | ok p =>
    rw [hread] at hcompile
    cases hcompile
  | error cause => simp [Except.toOption]

/-- The pattern of the definition at a place in a list, unless an earlier definition has the same
type and name. -/
def patternAt? (ds : List Definition) (i : Nat) : Option (Pattern × Definition) :=
  ds[i]?.bind fun d =>
    if ∃ e ∈ ds.take i, e.type = d.type ∧ e.name = d.name then none else patternOf? d

/-- A registry that takes up a definition has its pattern behind the others. -/
theorem patterns_add (r : Registry) (d : Definition) : (r.add d).patterns =
    r.patterns ++ (if (r.get? d.type d.name).isSome then none else patternOf? d).toList := by
  unfold add patternOf?
  cases hkept : r.get? d.type d.name with
  | some kept => simp
  | none =>
    cases hpattern : Pattern.isPattern d.name with
    | false => simp
    | true => cases hread : Pattern.compile d.name <;> simp [Except.toOption]

/-- A definition that is added behind a list changes nothing at the places of the list. -/
theorem patternAt?_append_of_lt {ds : List Definition} {i : Nat} (h : i < ds.length)
    (others : List Definition) : patternAt? (ds ++ others) i = patternAt? ds i := by
  rw [patternAt?, patternAt?, List.getElem?_append_left h,
    List.take_append_of_le_length (Nat.le_of_lt h)]

/-- The pattern at the last place of a list is the one that a registry of the others adds. -/
theorem patternAt?_concat_length (ds : List Definition) (d : Definition) :
    patternAt? (ds ++ [d]) ds.length =
      if ((ds.foldl add empty).get? d.type d.name).isSome then none else patternOf? d := by
  have hget : ((ds.foldl add empty).get? d.type d.name).isSome = true ↔
      admits d.name = true ∧ ∃ e ∈ ds, e.type = d.type ∧ e.name = d.name := by
    rw [get?_foldl_add]
    cases admits d.name <;> simp
  rw [patternAt?, List.getElem?_concat_length, List.take_left, Option.bind_some]
  cases hadmits : admits d.name with
  | false => simp [patternOf?_eq_none hadmits]
  | true =>
    rw [hadmits] at hget
    simp only [hget, true_and]

/-- The patterns of a registry are those of the definitions at their places. -/
theorem patterns_foldl_add (ds : List Definition) :
    (ds.foldl add empty).patterns = (List.range ds.length).filterMap (patternAt? ds) := by
  induction ds using List.reverseRecOn with
  | nil => rfl
  | append_singleton ds d ih =>
    rw [List.foldl_concat, patterns_add, ih,
      filterMap_range_concat fun i hi => patternAt?_append_of_lt hi [d], patternAt?_concat_length]

/-- The pattern that a name is. -/
theorem patternOf?_eq_some_iff {d d' : Definition} {p : Pattern} :
    patternOf? d = some (p, d') ↔
      d = d' ∧ Pattern.isPattern d.name = true ∧ Pattern.compile d.name = .ok p := by
  rw [patternOf?]
  cases hpattern : Pattern.isPattern d.name with
  | false => simp
  | true =>
    cases hread : Pattern.compile d.name with
    | error cause => simp [Except.toOption]
    | ok q => simpa [Except.toOption] using and_comm

/-- A pattern stands at a place exactly if the definition there is the first of its type and name,
and its name is the pattern. -/
theorem patternAt?_eq_some_iff {ds : List Definition} {i : Nat} {p : Pattern} {d : Definition} :
    patternAt? ds i = some (p, d) ↔
      ds[i]? = some d ∧ (∀ e ∈ ds.take i, ¬(e.type = d.type ∧ e.name = d.name)) ∧
        Pattern.isPattern d.name = true ∧ Pattern.compile d.name = .ok p := by
  rw [patternAt?, Option.bind_eq_some_iff]
  constructor
  · rintro ⟨d', hget, hd'⟩
    split at hd'
    · cases hd'
    · rename_i hfirst
      obtain ⟨rfl, hread⟩ := patternOf?_eq_some_iff.mp hd'
      exact ⟨hget, fun e he hkey => hfirst ⟨e, he, hkey⟩, hread⟩
  · rintro ⟨hget, hfirst, hread⟩
    refine ⟨d, hget, ?_⟩
    rw [if_neg (by rintro ⟨e, he, hkey⟩; exact hfirst e he hkey)]
    exact patternOf?_eq_some_iff.mpr ⟨rfl, hread⟩

/-! ## Finding -/

/-- A definition of a list is a candidate for a step: it has the type of the step, it is the first
with its type and name, and its name is a pattern, made of some pieces, that matches the text of the
step. -/
structure IsCandidate (ds : List Definition) (type : StepType) (t : Text) (i : Nat)
    (ps : List Pattern.Piece) (m : Match) : Prop where
  getElem?_eq : ds[i]? = some m.definition
  type_eq : m.definition.type = type
  first : ∀ e ∈ ds.take i, ¬(e.type = type ∧ e.name = m.definition.name)
  isPattern : Pattern.isPattern m.definition.name = true
  pieces_eq : Pattern.pieces m.definition.name = .ok ps
  captures_eq : ∃ p, Pattern.compile m.definition.name = .ok p ∧ p.captures t = some m.captures

/-- A pattern matches a step with its own definition. -/
theorem matchPattern_eq_some_iff {type : StepType} {t : Text} {p : Pattern} {d : Definition}
    {m : Match} : matchPattern type t (p, d) = some m ↔
      d = m.definition ∧ d.type = type ∧ p.captures t = some m.captures := by
  obtain ⟨d', captures⟩ := m
  rw [matchPattern]
  split
  · rename_i htype
    have htype : d.type = type := htype
    simp [htype, and_comm]
  · rename_i htype
    have htype : d.type ≠ type := htype
    simp [htype]

/-- A candidate stands at its place, and its pattern matches the step. -/
theorem isCandidate_iff {ds : List Definition} {type : StepType} {t : Text} {i : Nat}
    {ps : List Pattern.Piece} {m : Match} : IsCandidate ds type t i ps m ↔
      Pattern.pieces m.definition.name = .ok ps ∧ ∃ p, patternAt? ds i = some (p, m.definition) ∧
        matchPattern type t (p, m.definition) = some m := by
  simp only [patternAt?_eq_some_iff, matchPattern_eq_some_iff, true_and]
  constructor
  · intro h
    obtain ⟨p, hcompile, hcaptures⟩ := h.captures_eq
    refine ⟨h.pieces_eq, p, ⟨h.getElem?_eq, ?_, h.isPattern, hcompile⟩, h.type_eq, hcaptures⟩
    rw [h.type_eq]
    exact h.first
  · rintro ⟨hpieces, p, ⟨hget, hfirst, hpattern, hcompile⟩, rfl, hcaptures⟩
    exact ⟨hget, rfl, hfirst, hpattern, hpieces, p, hcompile, hcaptures⟩

/-- A pattern that matches a step at its place belongs to a candidate. -/
theorem exists_isCandidate_of_matchPattern {ds : List Definition} {type : StepType} {t : Text}
    {i : Nat} {p : Pattern} {m : Match} (hplace : patternAt? ds i = some (p, m.definition))
    (hmatch : matchPattern type t (p, m.definition) = some m) :
    ∃ ps, IsCandidate ds type t i ps m := by
  obtain ⟨-, -, -, hcompile⟩ := patternAt?_eq_some_iff.mp hplace
  obtain ⟨ps, hps, -⟩ := Pattern.exists_pieces_of_compile hcompile
  exact ⟨ps, isCandidate_iff.mpr ⟨hps, p, hplace, hmatch⟩⟩

/-- The first hit among the sorted patterns of a list is the best candidate of the list, and the
earliest of the best. -/
theorem exists_best_of_findSome? {ds : List Definition} {type : StepType} {t : Text} {m : Match}
    (h : (((List.range ds.length).filterMap (patternAt? ds)).mergeSort triedBefore).findSome?
      (matchPattern type t) = some m) :
    ∃ i ps, IsCandidate ds type t i ps m ∧ ∀ j qs n, IsCandidate ds type t j qs n →
      ¬Pattern.MoreSpecific qs ps ∧ (¬Pattern.MoreSpecific ps qs → i ≤ j) := by
  obtain ⟨before, ⟨p, d⟩, after, hpatterns, hm, hworse, hbetter⟩ :=
    exists_of_findSome?_mergeSort triedBefore_trans triedBefore_total h
  obtain ⟨r₁, rest, hrange, rfl, hrest⟩ := List.filterMap_eq_append_iff.mp hpatterns
  obtain ⟨r₂, i, r₃, rfl, hnone, hi, rfl⟩ := List.filterMap_eq_cons_iff.mp hrest
  obtain ⟨rfl, -⟩ := matchPattern_eq_some_iff.mp hm
  obtain ⟨ps, hcandidate⟩ := exists_isCandidate_of_matchPattern hi hm
  obtain ⟨-, -, -, hcompile⟩ := patternAt?_eq_some_iff.mp hi
  refine ⟨i, ps, hcandidate, fun j qs n hj => ?_⟩
  obtain ⟨hqs, q, hplace, hmatch⟩ := isCandidate_iff.mp hj
  obtain ⟨-, -, -, hcompile'⟩ := patternAt?_eq_some_iff.mp hplace
  have horder := triedBefore_eq_true_iff hcompile hcandidate.pieces_eq hcompile' hqs
  have hhit : (matchPattern type t (q, n.definition)).isSome = true := by rw [hmatch]; rfl
  have hmem : j ∈ r₁ ++ (r₂ ++ i :: r₃) := by
    rw [← hrange, List.mem_range]
    exact (List.getElem?_eq_some_iff.mp hj.getElem?_eq).1
  simp only [List.mem_append, List.mem_cons] at hmem
  rcases hmem with hin | hin | rfl | hin
  · -- a candidate before the best is strictly less specific
    have hlater := hworse (q, n.definition) (List.mem_filterMap.mpr ⟨j, hin, hplace⟩) hhit
    rw [← Bool.not_eq_true, triedBefore_eq_true_iff hcompile' hqs hcompile hcandidate.pieces_eq,
      not_not] at hlater
    exact ⟨hlater.not_moreSpecific, fun hnot => absurd hlater hnot⟩
  · rw [hnone j hin] at hplace
    cases hplace
  · rw [hi] at hplace
    obtain ⟨rfl, hsame⟩ := Prod.mk.inj (Option.some.inj hplace)
    have hps := hcandidate.pieces_eq
    rw [hsame] at hps
    obtain rfl : ps = qs := Except.ok.inj (hps.symm.trans hqs)
    exact ⟨Pattern.not_moreSpecific_self ps, fun _ => Nat.le_refl j⟩
  · have hle := hbetter (q, n.definition) (List.mem_filterMap.mpr ⟨j, hin, hplace⟩) hhit
    have hplaces : (r₁ ++ (r₂ ++ i :: r₃)).Pairwise (· < ·) := hrange ▸ List.pairwise_lt_range
    have hlt : i < j := List.rel_of_pairwise_cons
      (List.pairwise_append.mp (List.pairwise_append.mp hplaces).2.1).2.1 hin
    exact ⟨horder.mp hle, fun _ => Nat.le_of_lt hlt⟩

/-- The definition whose name is the text of a step is the first one in the list. -/
theorem filter_get?_ofList (ds : List Definition) (type : StepType) (t : Text) :
    ((ofList ds).get? type t).filter (fun d => !Pattern.isPattern d.name) =
      ds.find? fun d => d.type = type ∧ Pattern.isPattern d.name = false ∧ d.name = t := by
  have hget : (ofList ds).get? type t = (ds.foldl add empty).get? type t := rfl
  rw [hget, get?_foldl_add]
  cases hpattern : Pattern.isPattern t with
  | true =>
    -- no other definitions have a pattern as their name
    have hnone : ds.find? (fun d =>
        d.type = type ∧ Pattern.isPattern d.name = false ∧ d.name = t) = none := by
      refine List.find?_eq_none.mpr fun d _ hd => ?_
      obtain ⟨-, hplain, rfl⟩ := of_decide_eq_true hd
      rw [hpattern] at hplain
      cases hplain
    rw [hnone, Option.filter_eq_none_iff]
    intro d hd
    split at hd
    · have hkey : d.type = type ∧ d.name = t := by simpa using List.find?_some hd
      rw [hkey.2, hpattern]
      exact Bool.false_ne_true
    · cases hd
  | false =>
    have hadmits : admits t = true := by rw [admits, hpattern]; rfl
    have hsame : (fun d : Definition => decide
        (d.type = type ∧ Pattern.isPattern d.name = false ∧ d.name = t)) =
        fun d => decide (d.type = type ∧ d.name = t) := by
      funext d
      refine decide_eq_decide.mpr ⟨fun h => ⟨h.1, h.2.2⟩, fun h => ⟨h.1, ?_, h.2⟩⟩
      rw [h.2, hpattern]
    rw [hadmits, if_pos rfl, hsame]
    cases hfind : ds.find? fun d => decide (d.type = type ∧ d.name = t) with
    | none => rfl
    | some d =>
      have hkey : d.type = type ∧ d.name = t := by simpa using List.find?_some hfind
      simp [hkey.2, hpattern]

/-- What is found in the registry of a list: the first definition whose name is the text, or else
the first hit among the sorted patterns. -/
theorem find?_ofList_eq (ds : List Definition) (type : StepType) (t : Text) :
    (ofList ds).find? type t =
      match ds.find? fun d => d.type = type ∧ Pattern.isPattern d.name = false ∧ d.name = t with
      | some d => some { definition := d, captures := [] }
      | none => (((List.range ds.length).filterMap (patternAt? ds)).mergeSort triedBefore).findSome?
          (matchPattern type t) := by
  rw [find?, filter_get?_ofList, ← patterns_foldl_add]
  rfl

/-- There is no hit among the sorted patterns of a list exactly if the list has no candidate. -/
theorem findSome?_eq_none_iff {ds : List Definition} {type : StepType} {t : Text} :
    (((List.range ds.length).filterMap (patternAt? ds)).mergeSort triedBefore).findSome?
      (matchPattern type t) = none ↔ ∀ i ps m, ¬IsCandidate ds type t i ps m := by
  simp only [List.findSome?_eq_none_iff, List.mem_mergeSort, List.mem_filterMap, List.mem_range]
  constructor
  · intro h i ps m hm
    obtain ⟨-, p, hplace, hmatch⟩ := isCandidate_iff.mp hm
    have hlt := (List.getElem?_eq_some_iff.mp hm.getElem?_eq).1
    rw [h _ ⟨i, hlt, hplace⟩] at hmatch
    cases hmatch
  · rintro h ⟨p, d⟩ ⟨i, -, hplace⟩
    refine Option.eq_none_iff_forall_ne_some.mpr fun m hmatch => ?_
    obtain ⟨rfl, -⟩ := matchPattern_eq_some_iff.mp hmatch
    obtain ⟨ps, hm⟩ := exists_isCandidate_of_matchPattern hplace hmatch
    exact h i ps m hm

/-- A list has at most one candidate at a place. -/
theorem IsCandidate.eq {ds : List Definition} {type : StepType} {t : Text} {i : Nat}
    {ps qs : List Pattern.Piece} {m n : Match} (hm : IsCandidate ds type t i ps m)
    (hn : IsCandidate ds type t i qs n) : m = n := by
  obtain ⟨p, hp, hm'⟩ := hm.captures_eq
  obtain ⟨q, hq, hn'⟩ := hn.captures_eq
  obtain ⟨d, captures⟩ := m
  obtain ⟨d', captures'⟩ := n
  obtain rfl : d = d' := Option.some.inj (hm.getElem?_eq.symm.trans hn.getElem?_eq)
  obtain rfl : p = q := Except.ok.inj (hp.symm.trans hq)
  obtain rfl : captures = captures' := Option.some.inj (hm'.symm.trans hn')
  rfl

/-- A definition matches a text if the text is its name, or its name is a pattern that matches the
text. -/
def Matches (d : Definition) (t : Text) : Prop :=
  (Pattern.isPattern d.name = false ∧ d.name = t) ∨
    (Pattern.isPattern d.name = true ∧
      ∃ p captures, Pattern.compile d.name = .ok p ∧ p.captures t = some captures)

/-- If the pattern of a definition matches a step, the first definition of the same name is a
candidate. -/
theorem exists_isCandidate {ds : List Definition} {t : Text} {d : Definition} (hmem : d ∈ ds)
    (hpattern : Pattern.isPattern d.name = true) {p : Pattern}
    (hcompile : Pattern.compile d.name = .ok p) {captures : List Pattern.Capture}
    (hcaptures : p.captures t = some captures) : ∃ i ps m, IsCandidate ds d.type t i ps m := by
  have hfind : (ds.find? fun e => e.type = d.type ∧ e.name = d.name).isSome = true :=
    List.find?_isSome.mpr ⟨d, hmem, decide_eq_true ⟨rfl, rfl⟩⟩
  obtain ⟨e, he⟩ := Option.isSome_iff_exists.mp hfind
  obtain ⟨hkey, before, after, rfl, hbefore⟩ := List.find?_eq_some_iff_append.mp he
  obtain ⟨htype, hname⟩ : e.type = d.type ∧ e.name = d.name := by simpa using hkey
  obtain ⟨ps, hps, -⟩ := Pattern.exists_pieces_of_compile hcompile
  rw [← hname] at hpattern hcompile hps
  refine ⟨before.length, ps, ⟨e, captures⟩, ?_, htype, ?_, hpattern, hps, p, hcompile, hcaptures⟩
  · simp
  · rw [List.take_left]
    rintro a ha ⟨hatype, haname⟩
    have hother := hbefore a ha
    rw [hname] at haname
    simp [hatype, haname] at hother

/-- What is found for a step in the registry of a list of definitions. If the text of the step is
the name of definitions of its type, it is the first of these, without captures. Otherwise it is the
candidate whose pattern is the most specific, and of several such candidates the earliest. Nothing
is found exactly if no definition of the type matches. -/
theorem find?_ofList (ds : List Definition) (type : StepType) (t : Text) :
    (∀ d, (ds.find? fun d =>
        d.type = type ∧ Pattern.isPattern d.name = false ∧ d.name = t) = some d →
      (ofList ds).find? type t = some { definition := d, captures := [] }) ∧
    ((∀ d ∈ ds, ¬(d.type = type ∧ Pattern.isPattern d.name = false ∧ d.name = t)) → ∀ m,
      ((ofList ds).find? type t = some m ↔
        ∃ i ps, IsCandidate ds type t i ps m ∧ ∀ j qs n, IsCandidate ds type t j qs n →
          ¬Pattern.MoreSpecific qs ps ∧ (¬Pattern.MoreSpecific ps qs → i ≤ j))) ∧
    ((ofList ds).find? type t = none ↔ ∀ d ∈ ds, d.type = type → ¬Matches d t) := by
  rw [find?_ofList_eq]
  refine ⟨fun d hd => by rw [hd], ?_, ?_⟩
  · intro hverbatim m
    have hnone : (ds.find? fun d =>
        d.type = type ∧ Pattern.isPattern d.name = false ∧ d.name = t) = none :=
      List.find?_eq_none.mpr fun d hd hkey => hverbatim d hd (of_decide_eq_true hkey)
    rw [hnone]
    refine ⟨exists_best_of_findSome?, ?_⟩
    rintro ⟨i, ps, hm, hbest⟩
    obtain ⟨n, hn⟩ : ∃ n, (((List.range ds.length).filterMap (patternAt? ds)).mergeSort
        triedBefore).findSome? (matchPattern type t) = some n := by
      refine Option.ne_none_iff_exists'.mp fun hno => ?_
      exact findSome?_eq_none_iff.mp hno i ps m hm
    obtain ⟨j, qs, hj, hbest'⟩ := exists_best_of_findSome? hn
    -- neither of the two is more specific, so each is the earliest
    obtain ⟨hmost, hearliest⟩ := hbest j qs n hj
    obtain ⟨hmost', hearliest'⟩ := hbest' i ps m hm
    obtain rfl : i = j := Nat.le_antisymm (hearliest hmost') (hearliest' hmost)
    obtain rfl : m = n := hm.eq hj
    exact hn
  · cases hfind : ds.find? fun d =>
        d.type = type ∧ Pattern.isPattern d.name = false ∧ d.name = t with
    | some d =>
      obtain ⟨htype, hplain, hname⟩ :
          d.type = type ∧ Pattern.isPattern d.name = false ∧ d.name = t := by
        simpa using List.find?_some hfind
      have hmem := List.mem_of_find?_eq_some hfind
      exact ⟨fun h => (nomatch h), fun h => absurd (Or.inl ⟨hplain, hname⟩) (h d hmem htype)⟩
    | none =>
      rw [findSome?_eq_none_iff]
      constructor
      · rintro h d hmem rfl (⟨hplain, hname⟩ | ⟨hpattern, p, captures, hcompile, hcaptures⟩)
        · exact List.find?_eq_none.mp hfind d hmem (decide_eq_true ⟨rfl, hplain, hname⟩)
        · obtain ⟨i, ps, m, hm⟩ := exists_isCandidate hmem hpattern hcompile hcaptures
          exact h i ps m hm
      · intro h i ps m hm
        obtain ⟨p, hcompile, hcaptures⟩ := hm.captures_eq
        exact h m.definition (List.mem_of_getElem? hm.getElem?_eq) hm.type_eq
          (Or.inr ⟨hm.isPattern, p, m.captures, hcompile, hcaptures⟩)

/-- A step finds the definition with its text before any pattern. Of two patterns that match a step
it finds the one with more literal characters, though the other comes first; it finds the other one
if no more than that one matches. A name with an open brace is never found. -/
theorem find?_ofList_of_apples :
    let define (name : Text) (line : Nat) : Definition :=
      { type := .context, name, formals := [], run := fun _ => .ok none, target := none,
        file := "patterns.rs", line }
    let generic := define "I have {count} {things}" 10
    let typed := define "I have {count:u32} apples" 11
    let verbatim := define "I have 3 apples" 12
    let broken := define "I have \x7bcount apples" 13
    let r := ofList [generic, typed, verbatim, broken]
    r.find? .context "I have 3 apples" = some ⟨verbatim, []⟩ ∧
      r.find? .context "I have 4 apples" = some ⟨typed, [⟨"count", "4", some 'i'⟩]⟩ ∧
      r.find? .context "I have 4 pears" =
        some ⟨generic, [⟨"count", "4", none⟩, ⟨"things", "pears", none⟩]⟩ ∧
      r.find? .outcome "I have 4 pears" = none := by
  intro define generic typed verbatim broken r
  let wide : List Pattern.Piece :=
    [.literal "I have ", .placeholder "count" none, .literal " ", .placeholder "things" none]
  let narrow : List Pattern.Piece :=
    [.literal "I have ", .placeholder "count" (some "u32"), .literal " apples"]
  have hwide : Pattern.pieces generic.name = .ok wide := rfl
  have hnarrow : Pattern.pieces typed.name = .ok narrow := rfl
  have hverbatim : Pattern.isPattern verbatim.name = false := rfl
  have hbroken : Pattern.pieces broken.name = .error (.unclosed 7) := rfl
  have hbetter : Pattern.MoreSpecific narrow wide := by decide
  -- a candidate for a step is one of the first two definitions
  have hplaces : ∀ {t j qs n}, IsCandidate [generic, typed, verbatim, broken] .context t j qs n →
      (j = 0 ∧ n.definition = generic ∧ qs = wide) ∨
        (j = 1 ∧ n.definition = typed ∧ qs = narrow) := by
    intro t j qs n hn
    have hget := hn.getElem?_eq
    have hpattern := hn.isPattern
    have hpieces := hn.pieces_eq
    clear_value generic typed verbatim broken wide narrow
    rcases j with _ | _ | _ | _ | j
    · obtain rfl : generic = n.definition := Option.some.inj hget
      exact Or.inl ⟨rfl, rfl, Except.ok.inj (hpieces.symm.trans hwide)⟩
    · obtain rfl : typed = n.definition := Option.some.inj hget
      exact Or.inr ⟨rfl, rfl, Except.ok.inj (hpieces.symm.trans hnarrow)⟩
    · obtain rfl : verbatim = n.definition := Option.some.inj hget
      exact absurd (hpattern.symm.trans hverbatim) Bool.noConfusion
    · obtain rfl : broken = n.definition := Option.some.inj hget
      exact absurd (hpieces.symm.trans hbroken) nofun
    · exact absurd hget nofun
  have hfind := find?_ofList [generic, typed, verbatim, broken]
  refine ⟨(hfind .context _).1 verbatim rfl, ?_, ?_, (hfind .outcome _).2.2.mpr ?_⟩
  · refine ((hfind .context _).2.1 (by decide) _).mpr ⟨1, narrow,
      ⟨rfl, rfl, by decide, rfl, hnarrow, _, rfl, rfl⟩, fun j qs n hn => ?_⟩
    rcases hplaces hn with ⟨rfl, -, rfl⟩ | ⟨rfl, -, rfl⟩
    · exact ⟨hbetter.not_moreSpecific, fun hnot => absurd hbetter hnot⟩
    · exact ⟨Pattern.not_moreSpecific_self narrow, fun _ => Nat.le_refl 1⟩
  · refine ((hfind .context _).2.1 (by decide) _).mpr ⟨0, wide,
      ⟨rfl, rfl, by decide, rfl, hwide, _, rfl, rfl⟩, fun j qs n hn => ⟨?_, fun _ => Nat.zero_le j⟩⟩
    rcases hplaces hn with ⟨-, -, rfl⟩ | ⟨-, hd, rfl⟩
    · exact Pattern.not_moreSpecific_self wide
    · -- there are no apples among pears
      obtain ⟨p, hp, hcaptures⟩ := hn.captures_eq
      rw [hd] at hp
      cases hp
      cases hcaptures
  · have htypes : ∀ d ∈ [generic, typed, verbatim, broken], d.type = .context := by
      simp only [List.forall_mem_cons]
      exact ⟨rfl, rfl, rfl, rfl, nofun⟩
    exact fun d hd htype => absurd ((htypes d hd).symm.trans htype) StepType.noConfusion

end Registry

end FeatureDoc
