/-
# Blanks around a text

Blanks in front of a text and behind it are trimmed off, and those in front count for its indent.

* `trim_blanks_append`, `trim_append_blanks` : blanks on either side do not matter to trimming;
* `indentWidth_blanks_append` : blanks in front of a line make its indent wider;
* `exists_eq_blanks_append` : a text is its trimmed form with blanks on either side.
-/
import FeatureDoc.Text.Blank
import Mathlib.Data.List.TakeWhile

namespace FeatureDoc

namespace Text

/-- A text that holds nothing but blanks. -/
def IsBlanks (w : Text) : Prop := ∀ c ∈ w, isBlank c = true

instance : DecidablePred IsBlanks := fun w =>
  decidable_of_iff (w.all isBlank = true) List.all_eq_true

variable {w : Text}

/-! ## Blanks in front -/

/-- Blanks in front of a text are trimmed off. -/
theorem trimStart_blanks_append (hw : IsBlanks w) (t : Text) :
    trimStart (w ++ t) = trimStart t := by
  rw [trimStart, List.dropWhile_append_of_pos hw]
  rfl

/-- Blanks in front of a text are trimmed off. -/
theorem trim_blanks_append (hw : IsBlanks w) (t : Text) : trim (w ++ t) = trim t := by
  rw [trim, trimStart_blanks_append hw, trim]

/-- Blanks in front of a text are in front of its own leading blanks. -/
theorem leadingBlanks_blanks_append (hw : IsBlanks w) (t : Text) :
    leadingBlanks (w ++ t) = w ++ leadingBlanks t := by
  rw [leadingBlanks, List.takeWhile_append_of_pos hw]
  rfl

/-- Blanks in front of a line make its indent wider. -/
theorem indentWidth_blanks_append (hw : IsBlanks w) (t : Text) :
    indentWidth (w ++ t) = indentWidth t + w.length := by
  rw [indentWidth, leadingBlanks_blanks_append hw, List.length_append, Nat.add_comm]
  rfl

/-- With blanks in front a line is blank exactly if it is without them. -/
theorem isBlankLine_blanks_append (hw : IsBlanks w) (t : Text) :
    isBlankLine (w ++ t) = isBlankLine t := by
  have hall : w.all isBlank = true := List.all_eq_true.mpr hw
  rw [isBlankLine, List.all_append, hall, Bool.true_and, isBlankLine]

/-- A line that is not blank keeps its indent whatever follows. -/
theorem indentWidth_append {t : Text} (ht : isBlankLine t = false) (u : Text) :
    indentWidth (t ++ u) = indentWidth t := by
  induction t with
  | nil => cases ht
  | cons c t ih =>
    rw [indentWidth, leadingBlanks, List.cons_append, indentWidth, leadingBlanks]
    by_cases hc : isBlank c = true
    · have htail : isBlankLine t = false := by simpa [isBlankLine, hc] using ht
      rw [List.takeWhile_cons_of_pos hc, List.takeWhile_cons_of_pos hc, List.length_cons,
        List.length_cons]
      exact congrArg (· + 1) (ih htail)
    · rw [List.takeWhile_cons_of_neg hc, List.takeWhile_cons_of_neg hc]

/-! ## Blanks behind -/

/-- Blanks behind a text are trimmed off. -/
theorem trimEnd_append_blanks (hw : IsBlanks w) (t : Text) : trimEnd (t ++ w) = trimEnd t := by
  have hreverse : ∀ c ∈ w.reverse, isBlank c = true := fun c hc => hw c (List.mem_reverse.mp hc)
  rw [trimEnd, List.reverse_append, List.dropWhile_append_of_pos hreverse, trimEnd]

/-- A blank text is trimmed to nothing. -/
theorem trimStart_of_isBlanks (hw : IsBlanks w) : trimStart w = [] := by
  have happend := trimStart_blanks_append hw []
  rwa [List.append_nil] at happend

/-- Blanks behind a text are trimmed off. -/
theorem trim_append_blanks (hw : IsBlanks w) (t : Text) : trim (t ++ w) = trim t := by
  by_cases ht : trimStart t = []
  · -- the text is blank itself
    have hblank : IsBlanks t := List.dropWhile_eq_nil_iff.mp ht
    have hboth : IsBlanks (t ++ w) := fun c hc =>
      (List.mem_append.mp hc).elim (hblank c) (hw c)
    rw [trim, trim, ht, trimStart_of_isBlanks hboth]
  · have hstart : trimStart (t ++ w) = trimStart t ++ w := by
      unfold trimStart at ht ⊢
      rw [List.dropWhile_append, if_neg (by simpa using ht)]
    rw [trim, hstart, trimEnd_append_blanks hw, trim]

/-- A text is its trimmed form with blanks on either side. -/
theorem exists_eq_blanks_append (t : Text) :
    ∃ before after, IsBlanks before ∧ IsBlanks after ∧ t = before ++ (trim t ++ after) := by
  refine ⟨t.takeWhile isBlank, ((trimStart t).reverse.takeWhile isBlank).reverse, ?_, ?_, ?_⟩
  · exact fun c hc => List.mem_takeWhile_imp hc
  · exact fun c hc => List.mem_takeWhile_imp (List.mem_reverse.mp hc)
  · have hend : trim t ++ ((trimStart t).reverse.takeWhile isBlank).reverse = trimStart t := by
      rw [trim, trimEnd, ← List.reverse_append, List.takeWhile_append_dropWhile,
        List.reverse_reverse]
    rw [hend, trimStart, List.takeWhile_append_dropWhile]

end Text

end FeatureDoc
