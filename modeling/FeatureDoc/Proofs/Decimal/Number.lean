/-
# Which numbers are read

Digits of every script stand in a numeral of a pattern, and only those of ASCII are read. Apart from
that the numerals and the names are just what is read as a number.

* `isAscii_of_readNumber` : what is read as a number is of ASCII;
* `exists_readNumber_eq_ok` : numerals of ASCII and names are read;
* `readNumber_of_not_isAscii` : a numeral with other digits is malformed.
-/
import FeatureDoc.Proofs.Decimal.Integer
import FeatureDoc.Proofs.Pattern.Language
import FeatureDoc.Proofs.Text.Character
import Mathlib.Data.List.TakeDrop

namespace FeatureDoc

namespace Decimal

open Text Pattern

/-! ## Signs -/

/-- A text is of ASCII if its part after the sign is. -/
theorem isAscii_unsigned_iff {t : Text} : IsAscii (unsigned t) ↔ IsAscii t := by
  unfold unsigned
  split
  · exact (and_iff_right (by decide)).symm.trans isAscii_cons_iff.symm
  · exact (and_iff_right (by decide)).symm.trans isAscii_cons_iff.symm
  · rfl

/-- The sign of a text is taken off. -/
theorem unsigned_append {sign t : Text} (hsign : IsOptionalSign sign)
    (ht : StartsUnsigned t) :
    unsigned (sign ++ t) = t ∧ isNegative (sign ++ t) = isNegative sign := by
  rcases hsign with rfl | rfl | rfl
  · obtain ⟨c, t, rfl, hc⟩ := ht
    have hhead (d : Char) (hd : isSign d = true) (rest : Text) (heq : c :: t = d :: rest) :
        False := by
      rw [(List.cons.inj heq).1, hd] at hc
      cases hc
    exact (isNegative_and_unsigned_of_no_sign (hhead '-' rfl) (hhead '+' rfl)).symm
  · exact ⟨rfl, rfl⟩
  · exact ⟨rfl, rfl⟩

/-! ## The parts of what is read -/

/-- The digits in front of a text that starts with none are read up to it. -/
theorem spanDigits_append {digits rest : Text} (hdigits : ∀ c ∈ digits, c.isDigit = true)
    (hrest : ∀ c ∈ rest.head?, c.isDigit = false) :
    spanDigits (digits ++ rest) = (digits, rest) := by
  have hstop : rest.takeWhile Char.isDigit = [] ∧ rest.dropWhile Char.isDigit = rest := by
    cases rest with
    | nil => exact ⟨rfl, rfl⟩
    | cons c rest => simp [hrest c rfl]
  rw [spanDigits, List.span_eq_takeWhile_dropWhile, List.takeWhile_append_of_pos hdigits,
    List.dropWhile_append_of_pos hdigits, hstop.1, hstop.2, List.append_nil]

/-- Taking the digits off a text loses nothing, and takes nothing but digits. -/
theorem spanDigits_eq {t digits rest : Text} (h : spanDigits t = (digits, rest)) :
    t = digits ++ rest ∧ IsAscii digits := by
  rw [spanDigits, List.span_eq_takeWhile_dropWhile, Prod.mk.injEq] at h
  obtain ⟨rfl, rfl⟩ := h
  exact ⟨List.takeWhile_append_dropWhile.symm,
    isAscii_of_forall_isDigit (List.all_eq_true.mp List.all_takeWhile)⟩

/-- A name is read as a number. -/
theorem isSome_named?_iff {negative : Bool} {t : Text} :
    (named? negative t).isSome ↔ IsNumberName t := by
  unfold named? IsNumberName
  dsimp only
  split_ifs with hnan hinf <;> simp_all

/-- Names are of ASCII. -/
theorem isAscii_of_isNumberName {t : Text} (h : IsNumberName t) : IsAscii t := by
  apply isAscii_of_isAscii_lowerAscii
  rcases h with h | h | h <;> rw [h] <;> decide

/-- After the letter of an exponent digits are read, with an optional sign. -/
theorem readExponent_cons (e : Char) (rest : Text) : readExponent (e :: rest) =
    if e ≠ 'e' ∧ e ≠ 'E' then none
    else if unsigned rest ≠ [] ∧ (unsigned rest).all Char.isDigit then
      some (withSign (isNegative rest) (ofDigits (unsigned rest)))
    else none := by
  rw [readExponent]
  refine if_congr Iff.rfl rfl ?_
  dsimp only
  split
  · rfl
  · rfl
  · rename_i hminus hplus
    obtain ⟨hpositive, hself⟩ := isNegative_and_unsigned_of_no_sign hminus hplus
    rw [hpositive, hself]
    rfl

/-- An exponent of ASCII is read. -/
theorem isSome_readExponent {t : Text} (h : t = [] ∨ IsExponent t) (hascii : IsAscii t) :
    (readExponent t).isSome := by
  rcases h with rfl | ⟨e, sign, digits, rfl, he, hsign, hdigits⟩
  · rfl
  · have hasciiDigits := (isAscii_append_iff.mp (isAscii_cons_iff.mp hascii).2).2
    have hall : digits.all Char.isDigit = true :=
      List.all_eq_true.mpr ((isAscii_iff_of_isDecimalDigit hdigits.2).mp hasciiDigits)
    have hmark : ¬(e ≠ 'e' ∧ e ≠ 'E') := by
      rintro ⟨hsmall, hcapital⟩
      exact he.elim hsmall hcapital
    rw [readExponent_cons, if_neg hmark, (unsigned_append hsign hdigits.startsUnsigned).1,
      if_pos ⟨hdigits.1, hall⟩]
    rfl

/-- What is read as an exponent is of ASCII. -/
theorem isAscii_of_readExponent {t : Text} (h : (readExponent t).isSome) : IsAscii t := by
  cases t with
  | nil => exact List.forall_mem_nil _
  | cons e rest =>
    rw [readExponent_cons] at h
    split_ifs at h with hmark hdigits
    · cases h
    · rw [isAscii_cons_iff, ← isAscii_unsigned_iff]
      refine ⟨?_, isAscii_of_forall_isDigit (List.all_eq_true.mp hdigits.2)⟩
      rw [not_and_or, not_not, not_not] at hmark
      rcases hmark with rfl | rfl <;> decide
    · cases h

/-- Digits in front of something else than a point are read, with the exponent after them. -/
theorem isSome_readUnsigned_whole {negative : Bool} {t whole rest : Text}
    (hspan : spanDigits t = (whole, rest)) (hpoint : ∀ after, rest ≠ '.' :: after) :
    (readUnsigned negative t).isSome ↔ whole ≠ [] ∧ (readExponent rest).isSome := by
  rw [readUnsigned, hspan]
  dsimp only
  split
  · rename_i after hafter
    exact absurd rfl (hpoint _)
  · split_ifs with hempty <;> simp_all

/-- Digits around a point are read, with the exponent after them. -/
theorem isSome_readUnsigned_point {negative : Bool} {t whole fraction after rest : Text}
    (hspan : spanDigits t = (whole, '.' :: after)) (hafter : spanDigits after = (fraction, rest)) :
    (readUnsigned negative t).isSome ↔
      ¬(whole = [] ∧ fraction = []) ∧ (readExponent rest).isSome := by
  rw [readUnsigned, hspan]
  simp only [hafter]
  split_ifs with hempty <;> simp [hempty]

/-- Digits of ASCII with an optional point and an optional exponent are read. -/
theorem isSome_readUnsigned {negative : Bool} {digits exponent : Text} (hdigits : IsMantissa digits)
    (hexponent : exponent = [] ∨ IsExponent exponent) (hascii : IsAscii (digits ++ exponent)) :
    (readUnsigned negative (digits ++ exponent)).isSome := by
  obtain ⟨hascii, hasciiExponent⟩ := isAscii_append_iff.mp hascii
  have hread := isSome_readExponent hexponent hasciiExponent
  have hstop : ∀ c ∈ exponent.head?, c.isDigit = false ∧ c ≠ '.' := by
    rcases hexponent with rfl | ⟨e, sign, rest, rfl, rfl | rfl, -, -⟩ <;> simp
  rcases hdigits with hrun | ⟨whole, fraction, rfl, hrun⟩
  · have hspan : spanDigits (digits ++ exponent) = (digits, exponent) :=
      spanDigits_append ((isAscii_iff_of_isDecimalDigit hrun.2).mp hascii)
        fun c hc => (hstop c hc).1
    refine (isSome_readUnsigned_whole hspan fun after hafter => ?_).mpr ⟨hrun.1, hread⟩
    exact (hstop '.' (by rw [hafter]; rfl)).2 rfl
  · obtain ⟨hwhole, hfraction⟩ := List.forall_mem_append.mp hrun.2
    obtain ⟨hasciiWhole, hasciiRest⟩ := isAscii_append_iff.mp hascii
    have hspan : spanDigits (whole ++ '.' :: (fraction ++ exponent)) =
        (whole, '.' :: (fraction ++ exponent)) :=
      spanDigits_append ((isAscii_iff_of_isDecimalDigit hwhole).mp hasciiWhole) (by simp)
    have hafter : spanDigits (fraction ++ exponent) = (fraction, exponent) :=
      spanDigits_append
        ((isAscii_iff_of_isDecimalDigit hfraction).mp (isAscii_cons_iff.mp hasciiRest).2)
        fun c hc => (hstop c hc).1
    rw [List.append_assoc, List.cons_append]
    refine (isSome_readUnsigned_point hspan hafter).mpr ⟨?_, hread⟩
    rintro ⟨rfl, rfl⟩
    exact hrun.1 rfl

/-- What is read as digits with an optional point and an optional exponent is of ASCII. -/
theorem isAscii_of_readUnsigned {negative : Bool} {t : Text}
    (h : (readUnsigned negative t).isSome) : IsAscii t := by
  rcases hspan : spanDigits t with ⟨whole, rest⟩
  obtain ⟨rfl, hwhole⟩ := spanDigits_eq hspan
  rw [isAscii_append_iff]
  refine ⟨hwhole, ?_⟩
  by_cases hpoint : ∃ after, rest = '.' :: after
  · obtain ⟨after, rfl⟩ := hpoint
    rcases hafter : spanDigits after with ⟨fraction, rest⟩
    obtain ⟨rfl, hfraction⟩ := spanDigits_eq hafter
    have hread := ((isSome_readUnsigned_point hspan hafter).mp h).2
    exact isAscii_cons_iff.mpr ⟨by decide,
      isAscii_append_iff.mpr ⟨hfraction, isAscii_of_readExponent hread⟩⟩
  · rw [not_exists] at hpoint
    exact isAscii_of_readExponent ((isSome_readUnsigned_whole hspan hpoint).mp h).2

/-! ## What is read as a number -/

/-- The number after a sign: a name, or digits. -/
def unsignedNumber? (negative : Bool) (t : Text) : Option Double :=
  (named? negative t).or (readUnsigned negative t)

/-- A number, unless there is none. -/
def orMalformed (x : Option Double) : Except NumberFault Double := x.elim (.error .malformed) .ok

/-- A text is read as a number if what follows its sign is one. -/
theorem readNumber_eq {t : Text} (ht : t ≠ []) :
    readNumber t = orMalformed (unsignedNumber? (isNegative t) (unsigned t)) := by
  unfold readNumber
  dsimp only
  split
  · exact absurd rfl ht
  · rename_i rest
    change _ = orMalformed ((named? true rest).or (readUnsigned true rest))
    cases (named? true rest).or (readUnsigned true rest) <;> rfl
  · rename_i rest
    change _ = orMalformed ((named? false rest).or (readUnsigned false rest))
    cases (named? false rest).or (readUnsigned false rest) <;> rfl
  · rename_i hminus hplus
    obtain ⟨hpositive, hself⟩ := isNegative_and_unsigned_of_no_sign hminus hplus
    rw [hpositive, hself, unsignedNumber?]
    cases (named? false t).or (readUnsigned false t) <;> rfl

/-- What is read as a number is of ASCII. -/
theorem isAscii_of_readNumber {t : Text} {x : Double} (h : readNumber t = .ok x) : IsAscii t := by
  by_cases hne : t = []
  · rw [hne] at h
    cases h
  · rw [readNumber_eq hne, unsignedNumber?] at h
    rw [← isAscii_unsigned_iff]
    cases hname : named? (isNegative t) (unsigned t) with
    | some y => exact isAscii_of_isNumberName (isSome_named?_iff.mp (by rw [hname]; rfl))
    | none =>
      cases hread : readUnsigned (isNegative t) (unsigned t) with
      | some y => exact isAscii_of_readUnsigned (by rw [hread]; rfl)
      | none =>
        rw [hname, hread] at h
        cases h

/-- Numerals of ASCII and names are read as numbers. -/
theorem exists_readNumber_eq_ok {t : Text} (h : IsNumeral t ∨ IsNumberName t)
    (hascii : IsAscii t) : ∃ x, readNumber t = .ok x := by
  have hread : t ≠ [] ∧ (unsignedNumber? (isNegative t) (unsigned t)).isSome := by
    rw [unsignedNumber?, Option.isSome_or, Bool.or_eq_true]
    rcases h with ⟨sign, digits, exponent, rfl, hsign, hdigits, hexponent⟩ | hname
    · have hstart := hdigits.startsUnsigned.append exponent
      rw [(unsigned_append hsign hstart).1]
      refine ⟨List.append_ne_nil_of_right_ne_nil sign hstart.ne_nil, Or.inr ?_⟩
      exact isSome_readUnsigned hdigits hexponent (isAscii_append_iff.mp hascii).2
    · have hself : unsigned t = t := (unsigned_append (Or.inl rfl) hname.startsUnsigned).1
      rw [hself]
      exact ⟨hname.startsUnsigned.ne_nil, Or.inl (isSome_named?_iff.mpr hname)⟩
  obtain ⟨x, hx⟩ := Option.isSome_iff_exists.mp hread.2
  exact ⟨x, (readNumber_eq hread.1).trans (congrArg orMalformed hx)⟩

/-- A text with a character outside ASCII is malformed. -/
theorem readNumber_of_not_isAscii {t : Text} (hascii : ¬IsAscii t) :
    readNumber t = .error .malformed := by
  have hne : t ≠ [] := fun hnil => hascii (hnil ▸ List.forall_mem_nil _)
  have heq := readNumber_eq hne
  cases hvalue : unsignedNumber? (isNegative t) (unsigned t) with
  | none => exact heq.trans (congrArg orMalformed hvalue)
  | some x =>
    exact absurd (isAscii_of_readNumber (heq.trans (congrArg orMalformed hvalue))) hascii

end Decimal

end FeatureDoc
