/-
# How specific a pattern is

Of several patterns that match a text the most specific one is wanted. Which one that is can be
read off what is written: the characters of the literals, the placeholders, and their hints.

* `literals`, `hints` : what counts of the pieces of a pattern;
* `MoreSpecific` : the ranking of patterns by their pieces;
* `compare_specificity_eq_gt_iff` : patterns are compared by this ranking.
-/
import FeatureDoc.Proofs.Pattern.Matching

namespace FeatureDoc.Pattern

/-- The characters of the literals among pieces. -/
def literals (ps : List Piece) : Text := ps.flatMap fun
  | .literal t => t
  | .placeholder _ _ => []

/-- The hints of the placeholders among pieces; a placeholder may have none. -/
def hints (ps : List Piece) : List (Option Text) := ps.filterMap fun
  | .literal _ => none
  | .placeholder _ hint => some hint

/-- Pieces are more specific than others if their literals have more characters, or equally many
and there are fewer placeholders, or equally many of both and more placeholders have a hint. -/
def MoreSpecific (ps qs : List Piece) : Prop :=
  (literals qs).length < (literals ps).length ∨ (literals ps).length = (literals qs).length ∧
    ((hints ps).length < (hints qs).length ∨ (hints ps).length = (hints qs).length ∧
      (hints qs).countP Option.isSome < (hints ps).countP Option.isSome)

instance (ps qs : List Piece) : Decidable (MoreSpecific ps qs) :=
  inferInstanceAs (Decidable (_ < _ ∨ _ = _ ∧ (_ < _ ∨ _ = _ ∧ _ < _)))

/-- Nothing is more specific than itself. -/
theorem not_moreSpecific_self (ps : List Piece) : ¬MoreSpecific ps ps := by
  rw [MoreSpecific]
  omega

/-- Of two lists of pieces only one is more specific. -/
theorem MoreSpecific.not_moreSpecific {ps qs : List Piece} (h : MoreSpecific ps qs) :
    ¬MoreSpecific qs ps := by
  rw [MoreSpecific] at *
  omega

/-! ## The specificity of a pattern -/

/-- A specificity is less than another if it has fewer literal characters, or equally many and more
placeholders, or equally many of both and fewer hints. -/
theorem Specificity.compare_eq_lt_iff {a b : Specificity} : a.compare b = .lt ↔
    a.literalChars < b.literalChars ∨ a.literalChars = b.literalChars ∧
      (b.placeholders < a.placeholders ∨
        a.placeholders = b.placeholders ∧ a.typed < b.typed) := by
  simp only [compare, Ordering.then_eq_lt, Nat.compare_eq_lt, Nat.compare_eq_eq]
  tauto

/-- A specificity is greater than another exactly if the other is less. -/
theorem Specificity.compare_eq_gt_iff {a b : Specificity} :
    a.compare b = .gt ↔ b.compare a = .lt := by
  rw [compare_eq_lt_iff]
  simp only [compare, Ordering.then_eq_gt, Nat.compare_eq_gt, Nat.compare_eq_eq]
  tauto

/-- The literal characters of a pattern are those of its pieces. -/
theorem literalChars_of_standsFor {parts : List Part} {ps : List Piece}
    (h : List.Forall₂ Part.StandsFor parts ps) : literalChars parts = (literals ps).length := by
  induction h with
  | nil => rfl
  | @cons part piece parts ps hpart _ ih =>
    cases piece with
    | literal l =>
      obtain rfl : part = .literal l := hpart
      rw [literalChars, ih]
      exact List.length_append.symm
    | placeholder name hint =>
      obtain ⟨hole, -, rfl⟩ := hpart
      exact ih

/-- A placeholder keeps the hint with which it is written. -/
theorem hint_of_placeholderOf {name : Text} {hint : Option Text} {hole : Placeholder}
    (h : placeholderOf name hint = .ok hole) : hole.hint = hint := by
  cases hint with
  | none =>
    obtain rfl := Except.ok.inj h
    rfl
  | some hint =>
    rw [placeholderOf] at h
    split at h
    · obtain rfl := Except.ok.inj h
      rfl
    · cases h

/-- The hints of the placeholders of a pattern are those of its pieces. -/
theorem hints_of_standsFor {parts : List Part} {ps : List Piece}
    (h : List.Forall₂ Part.StandsFor parts ps) :
    (parts.filterMap Part.placeholder?).map Placeholder.hint = hints ps := by
  induction h with
  | nil => rfl
  | @cons part piece parts ps hpart _ ih =>
    cases piece with
    | literal l =>
      obtain rfl : part = .literal l := hpart
      exact ih
    | placeholder name hint =>
      obtain ⟨hole, hhole, rfl⟩ := hpart
      exact congrArg₂ List.cons (hint_of_placeholderOf hhole) ih

/-- What the specificity of a pattern counts. -/
theorem specificity_of_compile {t : Text} {p : Pattern} {ps : List Piece}
    (h : compile t = .ok p) (hps : pieces t = .ok ps) : p.specificity =
      { literalChars := (literals ps).length
        placeholders := (hints ps).length
        typed := (hints ps).countP Option.isSome } := by
  obtain ⟨qs, hqs, hparts⟩ := exists_pieces_of_compile h
  obtain rfl : ps = qs := Except.ok.inj (hps.symm.trans hqs)
  rw [specificity, literalChars_of_standsFor hparts, ← hints_of_standsFor hparts,
    List.length_map, List.countP_map, List.countP_eq_length_filter]
  rfl

/-- Patterns are compared by their pieces. -/
theorem compare_specificity_eq_gt_iff {t u : Text} {p q : Pattern} {ps qs : List Piece}
    (hp : compile t = .ok p) (hps : pieces t = .ok ps)
    (hq : compile u = .ok q) (hqs : pieces u = .ok qs) :
    p.specificity.compare q.specificity = .gt ↔ MoreSpecific ps qs := by
  rw [Specificity.compare_eq_gt_iff, Specificity.compare_eq_lt_iff,
    specificity_of_compile hp hps, specificity_of_compile hq hqs, MoreSpecific]
  exact or_congr Iff.rfl (and_congr eq_comm (or_congr Iff.rfl (and_congr eq_comm Iff.rfl)))

end FeatureDoc.Pattern
