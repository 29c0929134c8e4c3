/-
# Which integers are read

An integer is read digit by digit, and the first digit that is none or that leads beyond 64 bits
decides. Digits only make a number larger, so that what decides is known from the number that all
digits up to the first other character denote.

* `integerOf` : the integer that a sign and digits denote;
* `readDigits_eq` : what digits are read as;
* `readInteger_eq` : what a text with at least one digit is read as.
-/
import FeatureDoc.Decimal.Reader
import Mathlib.Tactic.SplitIfs

namespace FeatureDoc.Decimal

/-! ## What a text denotes -/

/-- Whether a text starts with a minus. -/
def isNegative (t : Text) : Bool := t.head? = some '-'

/-- A text without its sign. -/
def unsigned : Text → Text
  | '-' :: rest => rest
  | '+' :: rest => rest
  | t => t

/-- A number or its negative. -/
def withSign (negative : Bool) (n : Nat) : Int := if negative then -(n : Int) else n

/-- The integer that a text of an optional sign and ASCII digits denotes. -/
def integerOf (t : Text) : Int := withSign (isNegative t) (ofDigits (unsigned t))

/-- A text without a sign is not negative and remains as it is. -/
theorem isNegative_and_unsigned_of_no_sign {t : Text} (hminus : ∀ rest, t = '-' :: rest → False)
    (hplus : ∀ rest, t = '+' :: rest → False) : isNegative t = false ∧ unsigned t = t := by
  refine ⟨?_, unsigned.eq_3 t hminus hplus⟩
  cases hnegative : isNegative t with
  | false => rfl
  | true =>
    obtain ⟨rest, hrest⟩ := List.head?_eq_some_iff.mp (of_decide_eq_true hnegative)
    exact (hminus rest hrest).elim

/-! ## Digits -/

/-- More digits after a number make it no smaller. -/
theorem le_foldl_digitValue (digits : Text) (n : Nat) :
    n ≤ digits.foldl (fun n c => 10 * n + digitValue c) n := by
  induction digits generalizing n with
  | nil => exact Nat.le_refl n
  | cons c digits ih =>
    have hnext : n ≤ 10 * n + digitValue c := by omega
    exact Nat.le_trans hnext (ih _)

/-- The integers of 64 bits are those between two bounds. -/
theorem fits64_iff {n : Int} :
    fits64 n = true ↔ -9223372036854775808 ≤ n ∧ n < 9223372036854775808 := by
  have hpower : (twoPow 63 : Int) = 9223372036854775808 := rfl
  rw [fits64, hpower, Bool.and_eq_true, decide_eq_true_iff, decide_eq_true_iff]

/-- A number fits 64 bits if a larger one of the same sign does. -/
theorem fits64_of_le {negative : Bool} {m n : Nat} (hle : m ≤ n)
    (h : fits64 (withSign negative n) = true) : fits64 (withSign negative m) = true := by
  rw [fits64_iff, withSign] at *
  split_ifs at * <;> omega

/-- Digits are read as the number that those up to the first other character denote, unless it is
out of range or there is another character. -/
theorem readDigits_eq {negative : Bool} {n : Nat} (hn : fits64 (withSign negative n) = true)
    (t : Text) :
    let value := withSign negative
      ((t.takeWhile Char.isDigit).foldl (fun n c => 10 * n + digitValue c) n)
    readDigits negative (withSign negative n) t =
      if fits64 value then if t.all Char.isDigit then .ok value else .error .badDigit
      else .error .outOfRange := by
  induction t generalizing n with
  | nil => simp [readDigits, hn]
  | cons c t ih =>
    have hnext : (if negative then 10 * withSign negative n - digitValue c
        else 10 * withSign negative n + digitValue c) =
          withSign negative (10 * n + digitValue c) := by
      rw [withSign, withSign]
      split_ifs <;> omega
    rw [readDigits, hnext]
    by_cases hc : c.isDigit = true
    · simp only [hc, List.takeWhile_cons, List.foldl_cons, List.all_cons, Bool.true_and,
        not_true_eq_false, if_true, if_false]
      by_cases hfits : fits64 (withSign negative (10 * n + digitValue c)) = true
      · rw [if_pos hfits]
        exact ih hfits
      · -- the digits that follow make the number no smaller
        have hvalue := mt (fits64_of_le (le_foldl_digitValue (t.takeWhile Char.isDigit) _)) hfits
        rw [if_neg hfits, if_neg hvalue]
    · simp [hc, hn]

/-! ## Signs -/

/-- A text is read as an integer digit by digit after its sign. -/
theorem readInteger_eq {t : Text} (ht : unsigned t ≠ []) :
    let value := withSign (isNegative t) (ofDigits ((unsigned t).takeWhile Char.isDigit))
    readInteger t =
      if fits64 value then
        if (unsigned t).all Char.isDigit then .ok (Int64.ofInt value) else .error .badDigit
      else .error .outOfRange := by
  have hzero (negative : Bool) : fits64 (withSign negative 0) = true := by
    cases negative <;> decide
  have hdigits : readInteger t =
      (readDigits (isNegative t) (withSign (isNegative t) 0) (unsigned t)).map Int64.ofInt := by
    unfold readInteger
    split
    · exact absurd rfl ht
    · exact if_neg ht
    · exact if_neg ht
    · rename_i hminus hplus
      obtain ⟨hpositive, hself⟩ := isNegative_and_unsigned_of_no_sign hminus hplus
      rw [hself] at ht
      rw [hpositive, hself]
      exact if_neg ht
  rw [hdigits, readDigits_eq (hzero _)]
  dsimp only [ofDigits]
  split_ifs <;> rfl

end FeatureDoc.Decimal
