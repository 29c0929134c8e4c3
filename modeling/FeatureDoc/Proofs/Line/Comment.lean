/-
# Comments and blanks

What is left of a line without its comment does not depend on blanks in front of the line, and a
further comment behind it changes nothing.

* `stripComment_blanks_append` : blanks in front of a line;
* `stripComment_append_comment` : a comment behind a line.
-/
import FeatureDoc.Line.Comment
import FeatureDoc.Proofs.Text.Blank

namespace FeatureDoc.Line

/-- No blank starts a comment. -/
theorem ne_hash_of_isBlank {c : Char} (hc : Text.isBlank c = true) : c ≠ '#' := by
  rintro rfl
  cases hc

/-- Behind blanks a comment may start as at the beginning. -/
theorem beforeComment_blanks_append {w : Text} (hw : Text.IsBlanks w) (t : Text) :
    beforeComment true (w ++ t) = w ++ beforeComment true t := by
  induction w with
  | nil => rfl
  | cons c w ih =>
    have hc : Text.isBlank c = true := hw c List.mem_cons_self
    rw [List.cons_append, beforeComment, if_neg fun hboth => ne_hash_of_isBlank hc hboth.1, hc,
      ih fun d hd => hw d (List.mem_cons_of_mem _ hd), List.cons_append]

/-- Blanks in front of a line do not matter to what is left without its comment. -/
theorem stripComment_blanks_append {w : Text} (hw : Text.IsBlanks w) (t : Text) :
    stripComment (w ++ t) = stripComment t := by
  rw [stripComment, beforeComment_blanks_append hw, Text.trim_blanks_append hw, stripComment]

/-- A comment behind a line, with a space before it. -/
def writeComment (comment : Text) : Text := ' ' :: '#' :: comment

/-- A comment behind a text adds nothing but its space to what is before the first comment. -/
theorem beforeComment_append_comment (opens : Bool) (t comment : Text) :
    beforeComment opens (t ++ writeComment comment) = beforeComment opens t ∨
      beforeComment opens (t ++ writeComment comment) = beforeComment opens t ++ [' '] := by
  induction t generalizing opens with
  | nil => exact Or.inr (by cases opens <;> rfl)
  | cons c t ih =>
    rw [List.cons_append, beforeComment, beforeComment]
    split
    · exact Or.inl rfl
    · rcases ih (Text.isBlank c) with h | h <;> rw [h]
      · exact Or.inl rfl
      · exact Or.inr rfl

/-- A comment behind a line changes nothing of what is left without comments. -/
theorem stripComment_append_comment (t comment : Text) :
    stripComment (t ++ writeComment comment) = stripComment t := by
  have hspace : Text.IsBlanks [' '] := by decide
  rw [stripComment, stripComment]
  rcases beforeComment_append_comment true t comment with h | h <;> rw [h]
  exact Text.trim_append_blanks hspace _

/-- A line of which something is left without its comment is not blank. -/
theorem isBlankLine_of_stripComment_ne_nil {t : Text} (h : stripComment t ≠ []) :
    Text.isBlankLine t = false := by
  by_contra hblank
  have hblanks : Text.IsBlanks t := by
    rw [Bool.not_eq_false] at hblank
    exact List.all_eq_true.mp hblank
  have hempty := stripComment_blanks_append hblanks []
  rw [List.append_nil] at hempty
  exact h hempty

end FeatureDoc.Line
