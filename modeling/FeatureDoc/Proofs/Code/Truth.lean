/-
# Texts that become truth values

The code for truth values reads integers too, but it does not leave out underscores. A text that
becomes an integer is as true as that integer, unless there is an underscore in it: such a text is no
integer to this code, and counts as true because it is not empty.

* `textTruth_of_denotes` : the truth value of a text in which an integer is left;
* `truth_of_integer` : both codes on a text, and on each piece of one;
* `truth_unlike_integer` : a zero that counts as true.
-/
import FeatureDoc.Proofs.Code.Elementwise
import FeatureDoc.Proofs.Code.Integer
import FeatureDoc.Proofs.Text.Blank

namespace FeatureDoc.Code

open Decimal Text

/-! ## One text -/

/-- A character that may stand in a text that becomes an integer. -/
def MayStand (c : Char) : Prop :=
  isBlank c = true ∨ c = '_' ∨ Pattern.isSign c = true ∨ isDecimalDigit c = true

/-- Only such characters stand in a text that becomes an integer. -/
theorem mayStand_of_denotes {t : Text} {n : Int} (h : Denotes (integerDigits t) n) {c : Char}
    (hc : c ∈ t) : MayStand c := by
  obtain ⟨before, after, hbefore, hafter, ht⟩ := exists_eq_blanks_append t
  rw [ht, List.mem_append, List.mem_append] at hc
  rcases hc with hc | hc | hc
  · exact Or.inl (hbefore c hc)
  · by_cases hmark : c = '_'
    · exact Or.inr (Or.inl hmark)
    · have hleft : c ∈ integerDigits t := List.mem_filter.mpr ⟨hc, bne_iff_ne.mpr hmark⟩
      obtain ⟨sign, digits, hdigits, hsign, hrun⟩ := h.isSignedDigits
      rw [hdigits, List.mem_append] at hleft
      rcases hleft with hin | hin
      · refine Or.inr (Or.inr (Or.inl ?_))
        rcases hsign with rfl | rfl | rfl
        · cases hin
        · rw [List.mem_singleton.mp hin]
          rfl
        · rw [List.mem_singleton.mp hin]
          rfl
      · exact Or.inr (Or.inr (Or.inr (hrun.2 c hin)))
  · exact Or.inl (hafter c hc)

/-- Such a character has no small form but itself. -/
theorem MayStand.toLower_eq {c : Char} (h : MayStand c) : c.toLower = c := by
  rcases h with hblank | rfl | hsign | hdigit
  · exact toLower_of_isBlank hblank
  · rfl
  · rw [Pattern.isSign, Bool.or_eq_true, decide_eq_true_iff, decide_eq_true_iff] at hsign
    rcases hsign with rfl | rfl <;> rfl
  · refine (capital_or_toLower_eq c).resolve_left fun hcapital => ?_
    have hascii := (isDigit_iff_of_isDecimalDigit hdigit).mpr (by omega)
    have hrange := isDigit_iff.mp hascii
    omega

/-- The words for truth values have a letter that may not stand there. -/
theorem not_mayStand_e : ¬MayStand 'e' := by
  unfold MayStand
  decide

/-- A text with an underscore is not read as an integer. -/
theorem readInteger_ne_ok_of_underscore {t : Text} (h : '_' ∈ t) (k : Int64) :
    readInteger t ≠ .ok k :=
  fun hread => (readInteger_eq_ok_iff.mp hread).isSignedDigits.underscore_notMem h

/-- An underscore of a text is not trimmed off. -/
theorem underscore_mem_trim {t : Text} : '_' ∈ trim t ↔ '_' ∈ t := by
  obtain ⟨before, after, hbefore, hafter, ht⟩ := exists_eq_blanks_append t
  have hblank {w : Text} (hw : IsBlanks w) : '_' ∉ w := fun hin => absurd (hw _ hin) (by decide)
  conv_rhs => rw [ht, List.mem_append, List.mem_append]
  simp [hblank hbefore, hblank hafter]

/-- A text in which an integer is left counts as true if the integer is not zero, or if there is an
underscore in the text. -/
theorem textTruth_of_denotes {t : Text} {k : Int64} (h : Denotes (integerDigits t) k.toInt) :
    textTruth t = (k != 0 || t.contains '_') := by
  have hstand (c : Char) (hc : c ∈ t) : MayStand c := mayStand_of_denotes h hc
  have hsmall : lowerAscii t = t := by
    rw [lowerAscii, List.map_congr_left fun c hc => (hstand c hc).toLower_eq]
    exact List.map_id t
  have hword (word : Text) (hword : 'e' ∈ word) : t ≠ word := by
    rintro rfl
    exact not_mayStand_e (hstand 'e' hword)
  rw [textTruth, hsmall, if_neg (hword "true".toList (by decide)),
    if_neg (hword "false".toList (by decide))]
  by_cases hmark : '_' ∈ t
  · have hne : t.isEmpty = false := by
      cases t with
      | nil => cases hmark
      | cons c rest => rfl
    have hcontains : t.contains '_' = true := List.contains_iff_mem.mpr hmark
    rw [hcontains, Bool.or_true]
    split
    · rename_i n hread
      exact (readInteger_ne_ok_of_underscore (underscore_mem_trim.mpr hmark) n hread).elim
    · rw [hne]
      rfl
  · have hdigits : integerDigits t = trim t := by
      rw [integerDigits, without, List.filter_eq_self]
      intro c hc
      rw [bne_iff_ne]
      rintro rfl
      exact hmark (underscore_mem_trim.mp hc)
    have hcontains : t.contains '_' = false := by simpa using hmark
    rw [hdigits] at h
    rw [readInteger_eq_ok_iff.mpr h, hcontains, Bool.or_false]

/-! ## The pieces of a text -/

/-- The texts between commas, as the code for lists takes them. -/
def pieces (t : Text) : List Text := (Pieces.splitOn ',' t).map trim

/-- An integer is left in each piece. -/
def PiecesDenote (ps : List Text) (ks : List Int64) : Prop :=
  List.Forall₂ (fun piece k => Denotes (integerDigits piece) k.toInt) ps ks

/-- Texts become integers if one is left in each of them. -/
theorem takes_toInt_iff {ps : List Text} {ws : List Value} :
    Takes toInt (ps.map .text) ws ↔ ∃ ks, PiecesDenote ps ks ∧ ws = ks.map .int := by
  rw [Takes, List.forall₂_map_left_iff]
  constructor
  · intro h
    induction h with
    | nil => exact ⟨[], .nil, rfl⟩
    | cons hpiece _ ih =>
      obtain ⟨k, hk, rfl⟩ := apply_int_eq_ok_iff.mp hpiece
      obtain ⟨ks, hks, rfl⟩ := ih
      exact ⟨k :: ks, .cons hk hks, rfl⟩
  · rintro ⟨ks, hks, rfl⟩
    rw [List.forall₂_map_right_iff]
    exact hks.imp fun piece k hk => apply_int_eq_ok_iff.mpr ⟨k, hk, rfl⟩

/-- Each piece in which an integer is left has a truth value. -/
theorem PiecesDenote.takes_toBool {ps : List Text} {ks : List Int64} (h : PiecesDenote ps ks) :
    Takes toBool (ps.map .text)
      (List.zipWith (fun piece k => .bool (k != 0 || piece.contains '_')) ps ks) := by
  induction h with
  | nil => exact .nil
  | cons hk _ ih => exact .cons (by rw [toBool, textTruth_of_denotes hk]) ih

/-- Each integer has a truth value. -/
theorem takes_toBool_int (ks : List Int64) :
    Takes toBool (ks.map .int) (ks.map fun k => .bool (k != 0)) := by
  rw [Takes, List.forall₂_map_left_iff, List.forall₂_map_right_iff, List.forall₂_same]
  exact fun _ _ => rfl

/-- A text that becomes an integer counts as true if the integer is not zero or if there is an
underscore in the text, while the integer itself counts as true only if it is not zero. The two agree
on all texts but those with an underscore that become zero. The same holds of each piece of a text. -/
theorem truth_of_integer (t : Text) :
    (∀ k, apply 'i' (.text t) = .ok (.int k) →
      apply 'b' (.text t) = .ok (.bool (k != 0 || t.contains '_')) ∧
      applyAll "ib" (.text t) = .ok (.bool (k != 0))) ∧
    ∀ r, applyAll "li" (.text t) = .ok r →
      ∃ ks : List Int64, r = .list (ks.map .int) ∧ (pieces t).length = ks.length ∧
        applyAll "lb" (.text t) = .ok (.list (List.zipWith
          (fun piece k => .bool (k != 0 || piece.contains '_')) (pieces t) ks)) ∧
        applyAll "lib" (.text t) = .ok (.list (ks.map fun k => .bool (k != 0))) := by
  constructor
  · intro k h
    obtain ⟨_, hk, heq⟩ := apply_int_eq_ok_iff.mp h
    obtain rfl := Value.int.inj heq
    have hbool : apply 'b' (.text t) = .ok (.bool (textTruth t)) := rfl
    refine ⟨by rw [hbool, textTruth_of_denotes hk], ?_⟩
    change (apply 'i' (.text t) >>= applyAll ['b']) = _
    rw [h]
    rfl
  · intro r h
    have hpieces (codes : Text) : applyAll ('l' :: codes) (.text t) =
        applyAll codes (.list ((pieces t).map .text)) := by
      rw [pieces, List.map_map]
      rfl
    have hint : action? 'i' = some (.convert toInt) := rfl
    have hbool : action? 'b' = some (.convert toBool) := rfl
    change applyAll ['l', 'i'] _ = _ at h
    rw [hpieces] at h
    obtain ⟨_, happly, h⟩ := exists_of_bind_eq_ok h
    obtain ⟨f, ws, hf, hws, rfl⟩ := apply_list_eq_ok_iff.mp happly
    obtain rfl : toInt = f := Action.convert.inj (Option.some.inj (hint.symm.trans hf))
    obtain ⟨ks, hks, rfl⟩ := takes_toInt_iff.mp hws
    have htexts := apply_list_eq_ok_iff.mpr ⟨_, _, hbool, hks.takes_toBool, rfl⟩
    have hints := apply_list_eq_ok_iff.mpr ⟨_, _, hbool, takes_toBool_int ks, rfl⟩
    refine ⟨ks, (Except.ok.inj h).symm, hks.length_eq, ?_, ?_⟩
    · change applyAll ['l', 'b'] _ = _
      rw [hpieces, applyAll, htexts]
      rfl
    · change applyAll ['l', 'i', 'b'] _ = _
      rw [hpieces, applyAll, happly]
      change (apply 'b' (.list (ks.map .int)) >>= applyAll []) = _
      rw [hints]
      rfl

/-- A text with an underscore that becomes zero counts as true. -/
theorem truth_unlike_integer : apply 'i' (.text "0_0") = .ok (.int 0) ∧
    apply 'b' (.text "0_0") = .ok (.bool true) ∧
    applyAll "ib" (.text "0_0") = .ok (.bool false) :=
  ⟨rfl, rfl, rfl⟩

end FeatureDoc.Code
