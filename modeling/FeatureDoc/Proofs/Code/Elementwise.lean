/-
# Codes on lists

A run of codes goes over a list code by code: the first code converts all items, then the next one
converts what they have become. Items are not looked into, even if they are lists themselves. The same
comes of converting the items one by one, each by all codes. Where this fails, the first code that
fails decides, and of the items that it rejects the first.

* `Takes`, `RejectsFirst` : one conversion of several items;
* `apply_list_eq_ok_iff`, `apply_list_eq_error_iff` : one code on a list;
* `inTurn`, `takes_inTurn_cons_iff` : several conversions of one item, and their exchange;
* `applyAll_list_iff` : a run of codes on a list.
-/
import FeatureDoc.Code.Basic
import FeatureDoc.Proofs.Success
import Mathlib.Data.List.Forall2

namespace FeatureDoc.Code

/-- A conversion of a single value. -/
abbrev Conversion := Value → Except ConversionError Value

variable {f : Conversion} {fs : List Conversion} {code : Char} {codes : Text}
  {vs ws : List Value} {r : Value} {e : ConversionError}

/-! ## One conversion of several items -/

/-- A conversion takes values to others, one for one. -/
def Takes (f : Conversion) (vs ws : List Value) : Prop :=
  List.Forall₂ (fun v w => f v = .ok w) vs ws

/-- A conversion rejects a value of a list with an error, and none before it. -/
def RejectsFirst (f : Conversion) (vs : List Value) (e : ConversionError) : Prop :=
  ∃ front v back, vs = front ++ v :: back ∧ (∀ u ∈ front, ∃ w, f u = .ok w) ∧ f v = .error e

/-- The items of a list are converted if each of them is. -/
theorem convertItems_eq_ok_iff : convertItems f vs = .ok ws ↔ Takes f vs ws := by
  induction vs generalizing ws with
  | nil =>
    rw [Takes, List.forall₂_nil_left_iff]
    exact ⟨fun h => (Except.ok.inj h).symm, fun h => congrArg Except.ok h.symm⟩
  | cons v vs ih =>
    rw [Takes, List.forall₂_cons_left_iff, convertItems]
    constructor
    · intro h
      obtain ⟨w, hw, h⟩ := exists_of_bind_eq_ok h
      obtain ⟨rest, hrest, h⟩ := exists_of_bind_eq_ok h
      exact ⟨w, rest, hw, ih.mp hrest, (Except.ok.inj h).symm⟩
    · rintro ⟨w, rest, hw, hrest, rfl⟩
      rw [hw, ih.mpr hrest]
      rfl

/-- The first item of a list is rejected, or one of the others after it has been converted. -/
theorem rejectsFirst_cons_iff {v : Value} : RejectsFirst f (v :: vs) e ↔
    f v = .error e ∨ (∃ w, f v = .ok w) ∧ RejectsFirst f vs e := by
  constructor
  · rintro ⟨front, u, back, hlist, hfront, hu⟩
    cases front with
    | nil =>
      obtain ⟨rfl, -⟩ := List.cons.inj hlist
      exact Or.inl hu
    | cons first front =>
      obtain ⟨rfl, hrest⟩ := List.cons.inj hlist
      obtain ⟨hfirst, hfront⟩ := List.forall_mem_cons.mp hfront
      exact Or.inr ⟨hfirst, front, u, back, hrest, hfront, hu⟩
  · rintro (hv | ⟨hv, front, u, back, rfl, hfront, hu⟩)
    · exact ⟨[], v, vs, rfl, List.forall_mem_nil _, hv⟩
    · exact ⟨v :: front, u, back, rfl, List.forall_mem_cons.mpr ⟨hv, hfront⟩, hu⟩

/-- The items of a list are not converted if one of them is rejected; the first one decides. -/
theorem convertItems_eq_error_iff : convertItems f vs = .error e ↔ RejectsFirst f vs e := by
  induction vs with
  | nil =>
    constructor
    · intro h
      cases h
    · rintro ⟨front, v, back, hlist, -⟩
      simp at hlist
  | cons v vs ih =>
    rw [rejectsFirst_cons_iff, ← ih, convertItems]
    constructor
    · intro h
      rcases eq_error_of_bind_eq_error h with hv | ⟨w, hv, h⟩
      · exact Or.inl hv
      · rcases eq_error_of_bind_eq_error h with hrest | ⟨_, -, h⟩
        · exact Or.inr ⟨⟨w, hv⟩, hrest⟩
        · cases h
    · rintro (hv | ⟨⟨w, hv⟩, hrest⟩)
      · rw [hv]
        rfl
      · rw [hv, hrest]
        rfl

/-! ## One code on a list -/

/-- Why a character is no code that converts values. -/
inductive NoConversion (code : Char) : ConversionError → Prop where
  /-- No code has this character. -/
  | unknown (h : action? code = none) : NoConversion code (.unknownCode code)
  /-- The code says something else about an argument. -/
  | other {a : Action} (h : action? code = some a) (hother : ∀ f, a ≠ .convert f) :
      NoConversion code (.notConverting code)

/-- The conversion of a code is the one that the table gives. -/
theorem conversion_eq_ok_iff : conversion code = .ok f ↔ action? code = some (.convert f) := by
  unfold conversion
  split
  · rename_i haction
    simp [haction]
  · rename_i haction
    simp [haction]
  · rename_i a hother haction
    rw [haction]
    refine ⟨fun h => ?_, fun h => (hother f (Option.some.inj h)).elim⟩
    cases h

/-- A code has no conversion if the table gives none. -/
theorem conversion_eq_error_iff : conversion code = .error e ↔ NoConversion code e := by
  constructor
  · intro h
    unfold conversion at h
    split at h
    · rename_i haction
      obtain rfl := Except.error.inj h
      exact .unknown haction
    · cases h
    · rename_i a hother haction
      obtain rfl := Except.error.inj h
      exact .other haction fun f hf => hother f hf
  · rintro (haction | ⟨haction, hother⟩)
    · rw [conversion, haction]
    · rw [conversion, haction]
      split
      · rename_i hnone
        cases hnone
      · rename_i f hsome
        exact absurd (Option.some.inj hsome) (hother f)
      · rfl

/-- A code fails on values: it converts nothing, or it rejects one of them. -/
def FailsOn (code : Char) (vs : List Value) (e : ConversionError) : Prop :=
  NoConversion code e ∨ ∃ f, action? code = some (.convert f) ∧ RejectsFirst f vs e

/-- A code is applied to a list if it converts each item. -/
theorem apply_list_eq_ok_iff : apply code (.list vs) = .ok r ↔
    ∃ f ws, action? code = some (.convert f) ∧ Takes f vs ws ∧ r = .list ws := by
  constructor
  · intro h
    obtain ⟨f, hf, h⟩ := exists_of_bind_eq_ok h
    obtain ⟨ws, hws, rfl⟩ := exists_of_map_eq_ok h
    exact ⟨f, ws, conversion_eq_ok_iff.mp hf, convertItems_eq_ok_iff.mp hws, rfl⟩
  · rintro ⟨f, ws, hf, hws, rfl⟩
    rw [apply, conversion_eq_ok_iff.mpr hf]
    exact congrArg (Except.map Value.list) (convertItems_eq_ok_iff.mpr hws)

/-- A code cannot be applied to a list if it fails on the items. -/
theorem apply_list_eq_error_iff : apply code (.list vs) = .error e ↔ FailsOn code vs e := by
  constructor
  · intro h
    rcases eq_error_of_bind_eq_error h with hcode | ⟨f, hf, h⟩
    · exact Or.inl (conversion_eq_error_iff.mp hcode)
    · exact Or.inr ⟨f, conversion_eq_ok_iff.mp hf,
        convertItems_eq_error_iff.mp (eq_error_of_map_eq_error h)⟩
  · rintro (hcode | ⟨f, hf, hfirst⟩)
    · rw [apply, conversion_eq_error_iff.mpr hcode]
      rfl
    · rw [apply, conversion_eq_ok_iff.mpr hf]
      exact congrArg (Except.map Value.list) (convertItems_eq_error_iff.mpr hfirst)

/-! ## Conversions in turn -/

/-- A value under conversions one after the other, whatever it becomes on the way. -/
def inTurn (fs : List Conversion) (v : Value) : Except ConversionError Value :=
  fs.foldlM (fun v f => f v) v

/-- No conversions leave values as they are. -/
theorem takes_inTurn_nil_iff : Takes (inTurn []) vs ws ↔ vs = ws := by
  have hsame : (fun v w : Value => inTurn [] v = .ok w) = (· = ·) := by
    funext v w
    exact propext ⟨Except.ok.inj, congrArg Except.ok⟩
  rw [Takes, hsame, List.forall₂_eq_eq_eq]

/-- To convert each value in turn is to convert all by the first conversion, and what they become by
the others. -/
theorem takes_inTurn_cons_iff : Takes (inTurn (f :: fs)) vs ws ↔
    ∃ us, Takes f vs us ∧ Takes (inTurn fs) us ws := by
  constructor
  · intro h
    induction h with
    | nil => exact ⟨[], .nil, .nil⟩
    | cons hv _ ih =>
      obtain ⟨u, hfirst, hothers⟩ := exists_of_bind_eq_ok hv
      obtain ⟨us, hus, hws⟩ := ih
      exact ⟨u :: us, .cons hfirst hus, .cons hothers hws⟩
  · rintro ⟨us, hus, hws⟩
    induction hus generalizing ws with
    | nil =>
      cases hws
      exact .nil
    | @cons v u vs us hfirst _ ih =>
      cases hws with
      | cons hothers hws =>
        have hv : inTurn (f :: fs) v = inTurn fs u := by
          rw [inTurn, List.foldlM_cons, hfirst]
          rfl
        exact .cons (hv.trans hothers) (ih hws)

/-! ## A run of codes on a list -/

/-- All codes of a run convert, and these are their conversions. -/
def Converts (codes : Text) (fs : List Conversion) : Prop :=
  List.Forall₂ (fun code f => action? code = some (.convert f)) codes fs

/-- A run of codes is applied to a list if all its codes convert and each item is converted by all of
them. -/
theorem applyAll_list_eq_ok_iff : applyAll codes (.list vs) = .ok r ↔
    ∃ fs ws, Converts codes fs ∧ Takes (inTurn fs) vs ws ∧ r = .list ws := by
  induction codes generalizing vs with
  | nil =>
    constructor
    · intro h
      exact ⟨[], vs, .nil, takes_inTurn_nil_iff.mpr rfl, (Except.ok.inj h).symm⟩
    · rintro ⟨_, ws, ⟨⟩, hws, rfl⟩
      rw [takes_inTurn_nil_iff.mp hws]
      rfl
  | cons code codes ih =>
    constructor
    · intro h
      obtain ⟨_, happly, h⟩ := exists_of_bind_eq_ok h
      obtain ⟨f, us, hf, hus, rfl⟩ := apply_list_eq_ok_iff.mp happly
      obtain ⟨fs, ws, hfs, hws, rfl⟩ := ih.mp h
      exact ⟨f :: fs, ws, .cons hf hfs, takes_inTurn_cons_iff.mpr ⟨us, hus, hws⟩, rfl⟩
    · rintro ⟨_, ws, hcodes, hws, rfl⟩
      cases hcodes with
      | @cons _ f _ fs hf hfs =>
        obtain ⟨us, hus, hws⟩ := takes_inTurn_cons_iff.mp hws
        rw [applyAll, apply_list_eq_ok_iff.mpr ⟨f, us, hf, hus, rfl⟩]
        exact ih.mpr ⟨fs, ws, hfs, hws, rfl⟩

/-- A run of codes cannot be applied to a list if one of its codes fails on what the items have become
by then; the first such code decides. -/
theorem applyAll_list_eq_error_iff : applyAll codes (.list vs) = .error e ↔
    ∃ before code after fs ws, codes = before ++ code :: after ∧ Converts before fs ∧
      Takes (inTurn fs) vs ws ∧ FailsOn code ws e := by
  induction codes generalizing vs with
  | nil =>
    constructor
    · intro h
      cases h
    · rintro ⟨before, code, after, _, _, hcodes, -⟩
      simp at hcodes
  | cons code codes ih =>
    constructor
    · intro h
      rcases eq_error_of_bind_eq_error h with happly | ⟨_, happly, h⟩
      · exact ⟨[], code, codes, [], vs, rfl, .nil, takes_inTurn_nil_iff.mpr rfl,
          apply_list_eq_error_iff.mp happly⟩
      · obtain ⟨f, us, hf, hus, rfl⟩ := apply_list_eq_ok_iff.mp happly
        obtain ⟨before, c, after, fs, ws, rfl, hfs, hws, hfails⟩ := ih.mp h
        exact ⟨code :: before, c, after, f :: fs, ws, rfl, .cons hf hfs,
          takes_inTurn_cons_iff.mpr ⟨us, hus, hws⟩, hfails⟩
    · rintro ⟨before, c, after, fs, ws, hcodes, hfs, hws, hfails⟩
      cases hfs with
      | nil =>
        obtain ⟨rfl, rfl⟩ := List.cons.inj hcodes
        rw [takes_inTurn_nil_iff.mp hws, applyAll, apply_list_eq_error_iff.mpr hfails]
        rfl
      | @cons _ f before fs hf hfs =>
        obtain ⟨rfl, rfl⟩ := List.cons.inj hcodes
        obtain ⟨us, hus, hws⟩ := takes_inTurn_cons_iff.mp hws
        rw [applyAll, apply_list_eq_ok_iff.mpr ⟨f, us, hf, hus, rfl⟩]
        exact ih.mpr ⟨before, c, after, fs, ws, rfl, hfs, hws, hfails⟩

/-- A run of codes does to a list what its conversions do to each item in turn. It succeeds exactly if
all codes convert and each item is converted, with what the items become in their order. It fails
with the error of the first code that fails, which converts nothing or rejects an item as it is by
then, and of such items the first decides. -/
theorem applyAll_list_iff (codes : Text) (vs : List Value) :
    (∀ r, applyAll codes (.list vs) = .ok r ↔
      ∃ fs ws, Converts codes fs ∧ Takes (inTurn fs) vs ws ∧ r = .list ws) ∧
    ∀ e, applyAll codes (.list vs) = .error e ↔
      ∃ before code after fs ws, codes = before ++ code :: after ∧ Converts before fs ∧
        Takes (inTurn fs) vs ws ∧ FailsOn code ws e :=
  ⟨fun _ => applyAll_list_eq_ok_iff, fun _ => applyAll_list_eq_error_iff⟩

-- a list in a list is one item
example : applyAll "b" (.list [.list [.text "x"], .text "0"]) =
    .ok (.list [.bool true, .bool false]) := rfl

end FeatureDoc.Code
