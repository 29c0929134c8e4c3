/-
# What a pattern matches

The parts of a pattern in a row are one form: a literal is a form of nothing but itself, and a
placeholder has the form of its shape. A pattern matches the texts of its form, and of several
readings of a text the one that is tried first says what is captured.

* `partsForm`, `raws` : the form of some parts, and what their placeholders capture in a reading;
* `exists_isFirst_of_matchParts` : the captured texts are those of the first reading of a text;
* `Fills` : a text is put together from literals and from texts for the placeholders;
* `captures_of_compile` : a pattern captures the texts that fill it, by its first reading.
-/
import FeatureDoc.Pattern.Basic
import FeatureDoc.Proofs.Pattern.Language
import FeatureDoc.Proofs.Success
import FeatureDoc.Proofs.Lists

namespace FeatureDoc.Pattern

/-! ## First readings -/

namespace Form

/-- A reading of a whole text that is tried before all other readings of it. -/
def IsFirst (f : Form) (t : Text) (d : f.Reading) : Prop :=
  f.Fits d ∧ f.text d = t ∧
    ∀ d', f.Fits d' → f.text d' = t → d' = d ∨ f.Before d d' ∧ ¬f.Before d' d

/-- The first of the readings that leave nothing of a text over is its first reading. -/
theorem exists_isFirst {α : Type} {f : Form} {t : Text} {g : f.Reading → α} {b : α}
    (h : (f.readings t).findSome? (fun x => if x.2 = [] then some (g x.1) else none) = some b) :
    ∃ d, f.IsFirst t d ∧ g d = b := by
  obtain ⟨before, ⟨d, rest⟩, after, hsplit, hhit, hnone⟩ := List.findSome?_eq_some_iff.mp h
  obtain ⟨rfl, hb⟩ := Option.ite_none_right_eq_some.mp hhit
  have hmem : (d, []) ∈ f.readings t := by rw [hsplit]; simp
  obtain ⟨hfits, htext⟩ := mem_readings.mp hmem
  rw [List.append_nil] at htext
  refine ⟨d, ⟨hfits, htext.symm, fun d' hfits' htext' => ?_⟩, Option.some.inj hb⟩
  have hmem' : (d', []) ∈ f.readings t := mem_readings.mpr ⟨hfits', by simp [htext']⟩
  have hpairwise := pairwise_readings f t
  rw [hsplit] at hmem' hpairwise
  rcases List.mem_append.mp hmem' with hin | hin
  · cases (hnone _ hin).symm.trans (if_pos rfl)
  · rcases List.mem_cons.mp hin with heq | hin
    · exact Or.inl (congrArg Prod.fst heq)
    · have hbefore := List.rel_of_pairwise_cons (List.pairwise_append.mp hpairwise).2.1 hin
      exact Or.inr ⟨hbefore, before_asymm hbefore⟩

end Form

/-! ## The form of a pattern -/

/-- The form of a part. -/
def Part.form : Part → Form
  | literal l => .exact l
  | hole h => h.shape.form

/-- The form of some parts in a row. -/
def partsForm : List Part → Form
  | [] => .exact []
  | part :: parts => .seq part.form (partsForm parts)

/-- The texts that the placeholders among some parts capture in a reading. -/
def raws : (parts : List Part) → (partsForm parts).Reading → List Text
  | [], _ => []
  | .literal _ :: parts, (_, b) => raws parts b
  | .hole h :: parts, (a, b) => h.shape.form.text a :: raws parts b

/-- The texts that parts capture are those of the first reading that leaves nothing over. -/
theorem matchParts_eq_findSome? (parts : List Part) (t : Text) :
    matchParts parts t = ((partsForm parts).readings t).findSome? fun x =>
      if x.2 = [] then some (raws parts x.1) else none := by
  induction parts generalizing t with
  | nil => simp [matchParts, partsForm, Form.readings, Text.after?, raws]
  | cons part parts ih =>
    simp only [partsForm, Form.readings, findSome?_flatMap, List.findSome?_map]
    cases part with
    | literal l =>
      rw [matchParts]
      change _ = List.findSome? _ ((Text.after? l t).map fun rest => ((), rest)).toList
      cases Text.after? l t with
      | none => rfl
      | some rest => exact (ih rest).trans List.findSome?_singleton.symm
    | hole h =>
      rw [matchParts, Shape.splits_eq, Form.splits_eq_map, List.findSome?_map]
      refine congrArg (List.findSome? · _) (funext fun x => ?_)
      simp only [Function.comp_apply, ih, List.map_findSome?]
      refine congrArg (List.findSome? · _) (funext fun y => ?_)
      exact apply_ite _ _ _ _

/-- What parts capture is what their placeholders capture in the first reading of the text. -/
theorem exists_isFirst_of_matchParts {parts : List Part} {t : Text} {rs : List Text}
    (h : matchParts parts t = some rs) :
    ∃ d, (partsForm parts).IsFirst t d ∧ raws parts d = rs :=
  Form.exists_isFirst ((matchParts_eq_findSome? parts t).symm.trans h)

/-- Parts match the texts of their form. -/
theorem isSome_matchParts_iff {parts : List Part} {t : Text} :
    (matchParts parts t).isSome ↔ (partsForm parts).Accepts t := by
  constructor
  · intro h
    obtain ⟨rs, hrs⟩ := Option.isSome_iff_exists.mp h
    obtain ⟨d, ⟨hfits, htext, -⟩, -⟩ := exists_isFirst_of_matchParts hrs
    exact ⟨d, hfits, htext⟩
  · rintro ⟨d, hfits, rfl⟩
    rw [matchParts_eq_findSome?, List.findSome?_isSome_iff]
    exact ⟨(d, []), Form.mem_readings.mpr ⟨hfits, (List.append_nil _).symm⟩, rfl⟩

/-! ## Filling in the placeholders -/

/-- A text is put together from the literals of some parts and from texts of the right shapes for
their placeholders. -/
inductive Fills : List Part → List Text → Text → Prop
  | nil : Fills [] [] []
  | literal {parts : List Part} {rs : List Text} {t : Text} (l : Text) (h : Fills parts rs t) :
      Fills (.literal l :: parts) rs (l ++ t)
  | hole {parts : List Part} {rs : List Text} {r t : Text} (h : Placeholder)
      (hr : h.shape.Accepts r) (hrest : Fills parts rs t) :
      Fills (.hole h :: parts) (r :: rs) (r ++ t)

/-- A text is put together from parts exactly as it can be read in their form. -/
theorem fills_iff {parts : List Part} {rs : List Text} {t : Text} :
    Fills parts rs t ↔ ∃ d, (partsForm parts).Fits d ∧ (partsForm parts).text d = t ∧
      raws parts d = rs := by
  constructor
  · intro h
    induction h with
    | nil => exact ⟨(), trivial, rfl, rfl⟩
    | literal l h ih =>
      obtain ⟨d, hfits, rfl, rfl⟩ := ih
      exact ⟨((), d), ⟨trivial, hfits⟩, rfl, rfl⟩
    | hole h hr hrest ih =>
      obtain ⟨d, hfits, rfl, rfl⟩ := ih
      obtain ⟨a, ha, rfl⟩ := Shape.accepts_form_iff.mpr hr
      exact ⟨(a, d), ⟨ha, hfits⟩, rfl, rfl⟩
  · rintro ⟨d, hfits, rfl, rfl⟩
    induction parts with
    | nil => exact Fills.nil
    | cons part parts ih =>
      obtain ⟨a, d⟩ := d
      cases part with
      | literal l => exact (ih d hfits.2).literal l
      | hole h => exact (ih d hfits.2).hole h (Shape.accepts_form_iff.mp ⟨a, hfits.1, rfl⟩)

/-! ## What is captured -/

/-- A text is captured by a placeholder. -/
structure Placeholder.Captures (h : Placeholder) (c : Capture) : Prop where
  name_eq : c.name = h.name
  code_eq : c.code = h.code
  accepts : h.shape.Accepts c.raw

/-- Each placeholder captures the text that fills it. -/
theorem Fills.captures {parts : List Part} {rs : List Text} {t : Text} (h : Fills parts rs t) :
    ∃ cs, (parts.filterMap Part.placeholder?).zipWith
        (fun h raw => { name := h.name, raw, code := h.code : Capture }) rs = cs ∧
      List.Forall₂ Placeholder.Captures (parts.filterMap Part.placeholder?) cs ∧
      cs.map Capture.raw = rs := by
  induction h with
  | nil => exact ⟨[], rfl, List.Forall₂.nil, rfl⟩
  | literal l h ih => exact ih
  | hole h hr hrest ih =>
    obtain ⟨cs, hcs, hall, hraws⟩ := ih
    exact ⟨_ :: cs, congrArg _ hcs, List.Forall₂.cons ⟨rfl, rfl, hr⟩ hall, congrArg _ hraws⟩

/-- A pattern that captures something has one capture for each placeholder, and the captured texts
fill the placeholders. -/
theorem fills_of_captures {p : Pattern} {t : Text} {cs : List Capture}
    (h : p.captures t = some cs) :
    matchParts p.parts t = some (cs.map Capture.raw) ∧ Fills p.parts (cs.map Capture.raw) t ∧
      List.Forall₂ Placeholder.Captures p.placeholders cs := by
  obtain ⟨rs, hrs, hcs⟩ := Option.map_eq_some_iff.mp h
  obtain ⟨d, ⟨hfits, htext, -⟩, hraws⟩ := exists_isFirst_of_matchParts hrs
  have hfills := fills_iff.mpr ⟨d, hfits, htext, hraws⟩
  obtain ⟨cs', hcs', hall, hraw⟩ := hfills.captures
  obtain rfl : cs' = cs := hcs'.symm.trans hcs
  rw [hraw]
  exact ⟨hrs, hfills, hall⟩

/-! ## From the written form -/

/-- A part stands for a piece of the written form. -/
def Part.StandsFor : Part → Piece → Prop
  | part, .literal l => part = .literal l
  | part, .placeholder name hint => ∃ h, placeholderOf name hint = .ok h ∧ part = .hole h

/-- The parts of pieces stand for them one by one. -/
theorem standsFor_of_partsOf {used : List Text} {ps : List Piece} {parts : List Part}
    (h : partsOf used ps = .ok parts) : List.Forall₂ Part.StandsFor parts ps := by
  induction ps generalizing used parts with
  | nil =>
    cases h
    exact List.Forall₂.nil
  | cons piece ps ih =>
    cases piece with
    | literal l =>
      obtain ⟨rest, hrest, rfl⟩ := exists_of_map_eq_ok h
      exact List.Forall₂.cons rfl (ih hrest)
    | placeholder name hint =>
      rw [partsOf] at h
      split at h
      · cases h
      · cases hhole : placeholderOf name hint with
        | error e =>
          simp only [hhole] at h
          cases h
        | ok hole =>
          simp only [hhole] at h
          obtain ⟨rest, hrest, rfl⟩ := exists_of_map_eq_ok h
          exact List.Forall₂.cons ⟨hole, hhole, rfl⟩ (ih hrest)

/-- A pattern is made of the pieces of its written form. -/
theorem exists_pieces_of_compile {t : Text} {p : Pattern} (h : compile t = .ok p) :
    ∃ ps, pieces t = .ok ps ∧ List.Forall₂ Part.StandsFor p.parts ps := by
  obtain ⟨ps, hpieces, hrest⟩ := exists_of_bind_eq_ok h
  obtain ⟨parts, hparts, hp⟩ := exists_of_bind_eq_ok hrest
  obtain rfl := Except.ok.inj hp
  exact ⟨ps, hpieces, standsFor_of_partsOf hparts⟩

/-- Each placeholder of a pattern is made from a name and a hint. -/
theorem exists_placeholderOf_of_compile {t : Text} {p : Pattern} (h : compile t = .ok p)
    {hole : Placeholder} (hhole : hole ∈ p.placeholders) :
    ∃ name hint, placeholderOf name hint = .ok hole := by
  obtain ⟨ps, -, hparts⟩ := exists_pieces_of_compile h
  obtain ⟨part, hpart, hplaceholder⟩ := List.mem_filterMap.mp hhole
  obtain ⟨piece, -, hstands⟩ := exists_right_of_forall₂ hparts hpart
  cases piece with
  | literal l =>
    rw [Part.StandsFor] at hstands
    rw [hstands] at hplaceholder
    cases hplaceholder
  | placeholder name hint =>
    obtain ⟨made, hmade, rfl⟩ := hstands
    obtain rfl : made = hole := Option.some.inj hplaceholder
    exact ⟨name, hint, hmade⟩

/-- A pattern has parts that stand for the pieces of its written form. It matches a text exactly if
the text is put together from its literals and from texts of the right shapes for its placeholders.
Then it has one capture for each placeholder, the captured texts fill the placeholders, and no other
way to read the text is tried before. -/
theorem captures_of_compile {t : Text} {p : Pattern} (h : compile t = .ok p) :
    (∃ ps, pieces t = .ok ps ∧ List.Forall₂ Part.StandsFor p.parts ps) ∧
    ∀ u, ((p.captures u).isSome ↔ ∃ rs, Fills p.parts rs u) ∧
      ∀ cs, p.captures u = some cs →
        cs.map Capture.name = p.placeholders.map Placeholder.name ∧
        Fills p.parts (cs.map Capture.raw) u ∧
        ∃ d, (partsForm p.parts).IsFirst u d ∧ raws p.parts d = cs.map Capture.raw := by
  refine ⟨exists_pieces_of_compile h, fun u => ⟨?_, fun cs hcs => ?_⟩⟩
  · rw [captures, Option.isSome_map, isSome_matchParts_iff]
    constructor
    · rintro ⟨d, hfits, htext⟩
      exact ⟨_, fills_iff.mpr ⟨d, hfits, htext, rfl⟩⟩
    · rintro ⟨rs, hfills⟩
      obtain ⟨d, hfits, htext, -⟩ := fills_iff.mp hfills
      exact ⟨d, hfits, htext⟩
  · obtain ⟨hmatch, hfills, hall⟩ := fills_of_captures hcs
    refine ⟨?_, hfills, exists_isFirst_of_matchParts hmatch⟩
    rw [← List.forall₂_eq_eq_eq, List.forall₂_map_left_iff, List.forall₂_map_right_iff]
    exact hall.flip.imp fun c h hc => hc.name_eq

/-- The first placeholder takes no more than it has to, so that the second one finds digits. -/
theorem fills_of_compile_range : ∃ p, compile "from {a} to {b:int}" = .ok p ∧
    p.captures "from 1 to 2 to 3" = some [⟨"a", "1 to 2", none⟩, ⟨"b", "3", some 'i'⟩] ∧
    Fills p.parts ["1 to 2", "3"] "from 1 to 2 to 3" := by
  have hcompile : compile "from {a} to {b:int}" = .ok ⟨"from {a} to {b:int}",
      [.literal "from ", .hole ⟨"a", none, .line, none⟩, .literal " to ",
        .hole ⟨"b", some "int", .signedDigits, some 'i'⟩]⟩ := by rfl
  have hcaptures := ((captures_of_compile hcompile).2 "from 1 to 2 to 3").2
    [⟨"a", "1 to 2", none⟩, ⟨"b", "3", some 'i'⟩] (by rfl)
  exact ⟨_, hcompile, rfl, hcaptures.2.1⟩

end FeatureDoc.Pattern
