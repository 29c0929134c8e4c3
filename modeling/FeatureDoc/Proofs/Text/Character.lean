/-
# Kinds of characters

Texts of ASCII, and which kinds of characters have none in common.

* `IsAscii` : all characters of a text are of ASCII;
* `isBlank_eq_false_of_isDecimalDigit` : a decimal digit of any script is no blank;
* `HasNoBlank.trim_eq` : of a text without blanks nothing is trimmed.
-/
import FeatureDoc.Text.Word
import FeatureDoc.Proofs.Text.Phrase

namespace FeatureDoc

namespace Text

/-! ## Digits of ASCII -/

/-- The digits of ASCII are the characters from `0` to `9`. -/
theorem isDigit_iff {c : Char} : c.isDigit = true ↔ 48 ≤ c.toNat ∧ c.toNat ≤ 57 := by
  simp only [Char.isDigit, Bool.and_eq_true, decide_eq_true_eq, ge_iff_le, UInt32.le_iff_toNat_le]
  exact Iff.rfl

/-- The digits of ASCII are the decimal digits that are of ASCII. -/
theorem isDigit_iff_of_isDecimalDigit {c : Char} (h : isDecimalDigit c = true) :
    c.isDigit = true ↔ c.toNat < 128 := by
  refine ⟨fun hdigit => Nat.lt_of_le_of_lt (isDigit_iff.mp hdigit).2 (by decide), fun hc => ?_⟩
  rwa [isDecimalDigit, if_pos hc] at h

/-- A digit of ASCII is a decimal digit. -/
theorem isDecimalDigit_of_isDigit {c : Char} (h : c.isDigit = true) : isDecimalDigit c = true := by
  have hascii : c.toNat < 128 := Nat.lt_of_le_of_lt (isDigit_iff.mp h).2 (by decide)
  rw [isDecimalDigit, if_pos hascii, h]

/-! ## Texts of ASCII -/

/-- All characters of a text are of ASCII. -/
def IsAscii (t : Text) : Prop := ∀ c ∈ t, c.toNat < 128

instance (t : Text) : Decidable (IsAscii t) :=
  decidable_of_iff (t.all fun c => c.toNat < 128) (by simp [IsAscii])

/-- Two texts in a row are of ASCII if each is. -/
theorem isAscii_append_iff {t u : Text} : IsAscii (t ++ u) ↔ IsAscii t ∧ IsAscii u :=
  List.forall_mem_append

/-- A text is of ASCII if its first character and its rest are. -/
theorem isAscii_cons_iff {c : Char} {t : Text} : IsAscii (c :: t) ↔ c.toNat < 128 ∧ IsAscii t :=
  List.forall_mem_cons

/-- Digits of ASCII are of ASCII. -/
theorem isAscii_of_forall_isDigit {t : Text} (h : ∀ c ∈ t, c.isDigit = true) : IsAscii t :=
  fun c hc => Nat.lt_of_le_of_lt (isDigit_iff.mp (h c hc)).2 (by decide)

/-- Decimal digits are of ASCII if they are digits of ASCII. -/
theorem isAscii_iff_of_isDecimalDigit {t : Text} (h : ∀ c ∈ t, isDecimalDigit c = true) :
    IsAscii t ↔ ∀ c ∈ t, c.isDigit = true :=
  forall₂_congr fun c hc => (isDigit_iff_of_isDecimalDigit (h c hc)).symm

/-- A character is a capital letter of ASCII, or it has no small form but itself. -/
theorem capital_or_toLower_eq (c : Char) : (65 ≤ c.toNat ∧ c.toNat ≤ 90) ∨ c.toLower = c := by
  by_cases hcapital : c.val ≥ 'A'.val ∧ c.val ≤ 'Z'.val
  · exact Or.inl ⟨UInt32.le_iff_toNat_le.mp hcapital.1, UInt32.le_iff_toNat_le.mp hcapital.2⟩
  · exact Or.inr (dif_neg hcapital)

/-- A text is of ASCII if it is with its capital letters made small. -/
theorem isAscii_of_isAscii_lowerAscii {t : Text} (h : IsAscii (lowerAscii t)) : IsAscii t := by
  intro c hc
  have hlower := h _ (List.mem_map_of_mem hc)
  rcases capital_or_toLower_eq c with hcapital | heq
  · omega
  · rwa [heq] at hlower

/-! ## Blanks -/

/-- The code points of the blanks. -/
def blankRanges : Ranges := [
  (9, 13), (0x20, 0x20), (0x85, 0x85), (0xA0, 0xA0), (0x1680, 0x1680), (0x2000, 0x200A),
  (0x2028, 0x2029), (0x202F, 0x202F), (0x205F, 0x205F), (0x3000, 0x3000)]

/-- The blanks are the characters in these ranges. -/
theorem isBlank_eq_contains (c : Char) : isBlank c = blankRanges.contains c.toNat := by
  rw [Bool.eq_iff_iff, Ranges.contains_iff]
  simp only [isBlank, blankRanges, Bool.or_eq_true, Bool.and_eq_true, decide_eq_true_eq,
    List.mem_cons, List.not_mem_nil, or_false, exists_eq_or_imp, exists_eq_left]
  omega

/-- A decimal digit lies in one of the ranges of decimal digits. -/
theorem exists_range_of_isDecimalDigit {c : Char} (h : isDecimalDigit c = true) :
    ∃ range ∈ decimalDigitRanges, range.1 ≤ c.toNat ∧ c.toNat ≤ range.2 := by
  rw [isDecimalDigit] at h
  split at h
  · exact ⟨(48, 57), by decide, isDigit_iff.mp h⟩
  · exact Ranges.contains_iff.mp h

/-- A decimal digit is no blank. -/
theorem isBlank_eq_false_of_isDecimalDigit {c : Char} (h : isDecimalDigit c = true) :
    isBlank c = false := by
  rw [isBlank_eq_contains, Bool.eq_false_iff, Ne, Ranges.contains_iff]
  rintro ⟨blank, hblank, hfrom, hto⟩
  obtain ⟨digits, hdigits, hlow, hhigh⟩ := exists_range_of_isDecimalDigit h
  have hapart : ∀ digits ∈ decimalDigitRanges, ∀ blank ∈ blankRanges,
      digits.2 < blank.1 ∨ blank.2 < digits.1 := by decide
  have hranges := hapart digits hdigits blank hblank
  omega

/-- A blank has no small form but itself. -/
theorem toLower_of_isBlank {c : Char} (h : isBlank c = true) : c.toLower = c := by
  refine (capital_or_toLower_eq c).resolve_left ?_
  rw [isBlank_eq_contains, Ranges.contains_iff] at h
  simp only [blankRanges, List.mem_cons, List.not_mem_nil, or_false, exists_eq_or_imp,
    exists_eq_left] at h
  omega

/-- No character of a text is a blank. -/
def HasNoBlank (t : Text) : Prop := ∀ c ∈ t, isBlank c = false

instance (t : Text) : Decidable (HasNoBlank t) :=
  decidable_of_iff (t.all fun c => !isBlank c) (by simp [HasNoBlank])

/-- Of a text without blanks nothing is trimmed. -/
theorem HasNoBlank.trim_eq {t : Text} (h : HasNoBlank t) : trim t = t :=
  trim_eq_self_iff.mpr
    ⟨fun c hc => h c (List.mem_of_mem_head? hc), fun c hc => h c (List.mem_of_mem_getLast? hc)⟩

end Text

end FeatureDoc
