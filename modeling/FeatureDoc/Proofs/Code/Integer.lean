/-
# Texts that become integers

The code for integers reads a text without the blanks around it and without underscores. What it
answers is settled by the integer that is left: whether there is one, and whether it fits 64 bits.

* `apply_int_of_denotes`, `apply_int_eq_ok_iff` : what a text becomes;
* `apply_int_limits` : the code at its limits.
-/
import FeatureDoc.Code.Basic
import FeatureDoc.Proofs.Decimal.Denotation
import FeatureDoc.Proofs.Pattern.Value
import Mathlib.Algebra.Group.Int.Defs

namespace FeatureDoc.Code

open Decimal

/-- A text in which an integer is left becomes that integer, if it fits 64 bits. -/
theorem apply_int_of_denotes {t : Text} {n : Int} (h : Denotes (integerDigits t) n) :
    apply 'i' (.text t) =
      if fits64 n then .ok (.int (Int64.ofInt n)) else .error (.outOfRange 'i' t) := by
  have happly : apply 'i' (.text t) = toInt (.text t) := rfl
  rw [happly, toInt, h.readInteger_eq]
  split_ifs <;> rfl

/-- A text becomes an integer exactly if that integer is left in it. -/
theorem apply_int_eq_ok_iff {t : Text} {v : Value} :
    apply 'i' (.text t) = .ok v ↔ ∃ k : Int64, Denotes (integerDigits t) k.toInt ∧ v = .int k := by
  constructor
  · intro h
    have happly : apply 'i' (.text t) = toInt (.text t) := rfl
    rw [happly, toInt] at h
    split at h
    · rename_i k hread
      exact ⟨k, readInteger_eq_ok_iff.mp hread, (Except.ok.inj h).symm⟩
    · cases h
    · cases h
  · rintro ⟨k, hk, rfl⟩
    rw [apply_int_of_denotes hk, if_pos (fits64_toInt k), Int64.ofInt_toInt]

/-- The written form of an integer becomes that integer again. -/
theorem apply_int_display (k : Int64) : apply 'i' (.text (Value.int k).display) = .ok (.int k) := by
  have hdigits := denotes_ofInt k.toInt
  refine apply_int_eq_ok_iff.mpr ⟨k, ?_, rfl⟩
  change Denotes (integerDigits (Text.ofInt k.toInt)) k.toInt
  rwa [Pattern.integerDigits_eq_self hdigits.isSignedDigits]

/-- A text becomes an integer exactly if, without the blanks around it and without underscores, it is
an optional sign and digits of ASCII that denote an integer of 64 bits. Digits that denote another
integer are out of range, and a text is invalid only if it has not this shape. The written form of an
integer becomes that integer again, and both codes for integers are the same. -/
theorem apply_int_limits (t : Text) :
    let digits := Text.without '_' (Text.trim t)
    (∀ v, apply 'i' (.text t) = .ok v ↔
      ∃ n, Denotes digits n ∧ -2 ^ 63 ≤ n ∧ n ≤ 2 ^ 63 - 1 ∧ v = .int (Int64.ofInt n)) ∧
    (∀ n, Denotes digits n → n < -2 ^ 63 ∨ 2 ^ 63 - 1 < n →
      apply 'i' (.text t) = .error (.outOfRange 'i' t)) ∧
    (∀ code input reason, apply 'i' (.text t) = .error (.invalid code input reason) →
      ∀ n, ¬Denotes digits n) ∧
    (∀ n : Int64, apply 'i' (.text (Value.int n).display) = .ok (.int n)) ∧
    ∀ v, apply 'I' v = apply 'i' v := by
  intro digits
  refine ⟨fun v => ?_, fun n hn hlimits => ?_, ?_, apply_int_display, fun _ => rfl⟩
  · rw [apply_int_eq_ok_iff]
    constructor
    · rintro ⟨k, hk, rfl⟩
      have hfits := fits64_iff.mp (fits64_toInt k)
      exact ⟨k.toInt, hk, by omega, by omega, by rw [Int64.ofInt_toInt]⟩
    · rintro ⟨n, hn, hlow, hhigh, rfl⟩
      have hfits : fits64 n = true := fits64_iff.mpr ⟨by omega, by omega⟩
      exact ⟨Int64.ofInt n, by rwa [toInt_ofInt_of_fits64 hfits], rfl⟩
  · have hfits : ¬fits64 n = true := fun h => by
      rw [fits64_iff] at h
      omega
    rw [apply_int_of_denotes hn, if_neg hfits]
  · intro code input reason h n hn
    rw [apply_int_of_denotes hn] at h
    split_ifs at h
    cases h

example : apply 'i' (.text " -9_223_372_036_854_775_808\u3000") = .ok (.int Int64.minValue) := rfl

end FeatureDoc.Code
