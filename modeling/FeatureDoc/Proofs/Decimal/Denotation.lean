/-
# What integers are written as

A text denotes an integer if it is at least one digit of ASCII, with or without a sign in front. Just
these texts are read as integers, unless what they denote does not fit 64 bits, and the written form
of an integer denotes it.

* `Denotes` : the texts of integers;
* `Denotes.readInteger_eq`, `readInteger_eq_ok_iff` : what they are read as, and that no other text is
  read;
* `denotes_ofInt` : the written form of an integer denotes it.
-/
import FeatureDoc.Proofs.Decimal.Integer
import FeatureDoc.Proofs.Pattern.Language
import FeatureDoc.Proofs.Text.Character
import Mathlib.Data.List.TakeWhile

namespace FeatureDoc.Decimal

/-! ## The texts of integers -/

/-- At least one digit of ASCII, and nothing else. -/
def IsDigitRun (t : Text) : Prop := Pattern.IsRun Char.isDigit t

/-- A text denotes an integer in the decimal system. -/
inductive Denotes : Text → Int → Prop where
  | unsigned {digits : Text} (h : IsDigitRun digits) :
      Denotes digits (Nat.ofDigitChars 10 digits 0)
  | plus {digits : Text} (h : IsDigitRun digits) :
      Denotes ('+' :: digits) (Nat.ofDigitChars 10 digits 0)
  | minus {digits : Text} (h : IsDigitRun digits) :
      Denotes ('-' :: digits) (-(Nat.ofDigitChars 10 digits 0 : Int))

/-- A run of digits has no sign in front. -/
theorem IsDigitRun.isNegative_and_unsigned {t : Text} (h : IsDigitRun t) :
    isNegative t = false ∧ Decimal.unsigned t = t := by
  have hhead (c : Char) (hc : c.isDigit = false) (rest : Text) (heq : t = c :: rest) : False := by
    have hdigit := h.2 c (by rw [heq]; exact List.mem_cons_self)
    rw [hc] at hdigit
    cases hdigit
  exact isNegative_and_unsigned_of_no_sign (hhead '-' rfl) (hhead '+' rfl)

/-- A text denotes an integer if digits follow its sign: the one that its sign and its digits make
up. -/
theorem denotes_iff {t : Text} {n : Int} :
    Denotes t n ↔ IsDigitRun (Decimal.unsigned t) ∧ n = integerOf t := by
  constructor
  · rintro (⟨h⟩ | ⟨h⟩ | ⟨h⟩)
    · obtain ⟨hpositive, hself⟩ := h.isNegative_and_unsigned
      rw [integerOf, hpositive, hself]
      exact ⟨h, rfl⟩
    · exact ⟨h, rfl⟩
    · exact ⟨h, rfl⟩
  · rintro ⟨h, rfl⟩
    by_cases hminus : ∃ rest, t = '-' :: rest
    · obtain ⟨rest, rfl⟩ := hminus
      exact .minus h
    by_cases hplus : ∃ rest, t = '+' :: rest
    · obtain ⟨rest, rfl⟩ := hplus
      exact .plus h
    · obtain ⟨hpositive, hself⟩ := isNegative_and_unsigned_of_no_sign
        (fun rest heq => hminus ⟨rest, heq⟩) fun rest heq => hplus ⟨rest, heq⟩
      rw [hself] at h
      rw [integerOf, hpositive, hself]
      exact .unsigned h

/-- The text of an integer is a sign or nothing, and decimal digits. -/
theorem Denotes.isSignedDigits {t : Text} {n : Int} (h : Denotes t n) :
    Pattern.IsSignedDigits t := by
  have hdigits {digits : Text} (hrun : IsDigitRun digits) : Pattern.IsDigits digits :=
    ⟨hrun.1, fun c hc => Text.isDecimalDigit_of_isDigit (hrun.2 c hc)⟩
  cases h with
  | unsigned hrun => exact ⟨[], _, rfl, Or.inl rfl, hdigits hrun⟩
  | plus hrun => exact ⟨['+'], _, rfl, Or.inr (Or.inl rfl), hdigits hrun⟩
  | minus hrun => exact ⟨['-'], _, rfl, Or.inr (Or.inr rfl), hdigits hrun⟩

/-! ## Reading -/

/-- The text of an integer is read as that integer, if it fits 64 bits. -/
theorem Denotes.readInteger_eq {t : Text} {n : Int} (h : Denotes t n) :
    readInteger t = if fits64 n then .ok (Int64.ofInt n) else .error .outOfRange := by
  obtain ⟨hrun, rfl⟩ := denotes_iff.mp h
  have hall : (Decimal.unsigned t).all Char.isDigit = true := List.all_eq_true.mpr hrun.2
  rw [Decimal.readInteger_eq hrun.1, List.takeWhile_eq_self_iff.mpr hrun.2, if_pos hall]
  rfl

/-- Nothing is read without a digit. -/
theorem readInteger_ne_ok_of_unsigned_eq_nil {t : Text} (h : Decimal.unsigned t = []) (k : Int64) :
    readInteger t ≠ .ok k := by
  unfold Decimal.unsigned at h
  split at h
  · subst h
    exact fun hread => by cases hread
  · subst h
    exact fun hread => by cases hread
  · subst h
    exact fun hread => by cases hread

/-- Integers of 64 bits are kept as they are. -/
theorem toInt_ofInt_of_fits64 {n : Int} (h : fits64 n = true) : (Int64.ofInt n).toInt = n := by
  rw [fits64_iff] at h
  exact Int64.toInt_ofInt_of_le (by omega) (by omega)

/-- What has a 64-bit form fits. -/
theorem fits64_toInt (k : Int64) : fits64 k.toInt = true := by
  rw [fits64_iff]
  have hlow := k.le_toInt
  have hhigh := k.toInt_lt
  omega

/-- Just the texts of integers are read, as what they denote. -/
theorem readInteger_eq_ok_iff {t : Text} {k : Int64} :
    readInteger t = .ok k ↔ Denotes t k.toInt := by
  constructor
  · intro h
    have hne : Decimal.unsigned t ≠ [] :=
      fun hnil => readInteger_ne_ok_of_unsigned_eq_nil hnil k h
    rw [Decimal.readInteger_eq hne] at h
    split_ifs at h with hfits hall
    have hrun : IsDigitRun (Decimal.unsigned t) := ⟨hne, List.all_eq_true.mp hall⟩
    rw [denotes_iff, ← Except.ok.inj h, toInt_ofInt_of_fits64 hfits,
      List.takeWhile_eq_self_iff.mpr hrun.2]
    exact ⟨hrun, rfl⟩
  · intro h
    rw [h.readInteger_eq, if_pos (fits64_toInt k), Int64.ofInt_toInt]

/-! ## Writing -/

/-- The digits of a number are digits. -/
theorem isDigitRun_ofNat (n : Nat) : IsDigitRun (Text.ofNat n) :=
  ⟨Nat.toDigits_ne_nil, fun _ hc => Nat.isDigit_of_mem_toDigits (by decide) (by decide) hc⟩

/-- The written form of an integer denotes it. -/
theorem denotes_ofInt (n : Int) : Denotes (Text.ofInt n) n := by
  have hdigits : Nat.ofDigitChars 10 (Text.ofNat n.natAbs) 0 = n.natAbs :=
    Nat.ofDigitChars_ten_toDigits
  rw [Text.ofInt]
  split_ifs with hn
  · have hminus := Denotes.minus (isDigitRun_ofNat n.natAbs)
    rwa [hdigits, show (-(n.natAbs : Int)) = n by omega] at hminus
  · have hplain := Denotes.unsigned (isDigitRun_ofNat n.natAbs)
    rwa [hdigits, show (n.natAbs : Int) = n by omega] at hplain

end FeatureDoc.Decimal
