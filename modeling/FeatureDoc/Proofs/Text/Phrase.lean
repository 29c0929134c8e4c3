/-
# Phrases

Names and the texts of steps are phrases: a phrase stands on one line, without blanks around it,
and no part of it is a comment. A line that is put together of a beginning and a phrase is read
as it stands.

* `trim_eq_self_iff` : a text has no blanks around it if its first and its last character are
  none;
* `IsPhrase.isWhole_append` : a beginning and a phrase are a line that is read as it stands;
* `lines_writeLines` : lines that are written one after the other are read as these lines.
-/
import FeatureDoc.Line.Comment

namespace FeatureDoc

namespace Text

/-! ## Blanks around a text -/

/-- A text has no blanks at its beginning if its first character is none. -/
theorem trimStart_eq_self_iff {t : Text} :
    trimStart t = t ↔ ∀ c ∈ t.head?, isBlank c = false := by
  cases t with
  | nil => simp [trimStart]
  | cons c t =>
    rw [trimStart, List.dropWhile_cons]
    constructor
    · intro h
      split at h
      · have hlength := congrArg List.length h
        have hle := (List.dropWhile_sublist isBlank (l := t)).length_le
        simp only [List.length_cons] at hlength
        omega
      · rename_i hnot
        simpa using hnot
    · intro h
      have hnot : isBlank c = false := h c rfl
      simp [hnot]

/-- A text has no blanks at its end if its last character is none. -/
theorem trimEnd_eq_self_iff {t : Text} :
    trimEnd t = t ↔ ∀ c ∈ t.getLast?, isBlank c = false := by
  rw [← List.head?_reverse, ← trimStart_eq_self_iff, trimEnd, trimStart]
  exact List.reverse_eq_iff

/-- A text has no blanks around it if its first and its last character are none. -/
theorem trim_eq_self_iff {t : Text} : trim t = t ↔
    (∀ c ∈ t.head?, isBlank c = false) ∧ (∀ c ∈ t.getLast?, isBlank c = false) := by
  rw [← trimStart_eq_self_iff, ← trimEnd_eq_self_iff]
  constructor
  · intro h
    -- nothing is taken off at either end, since nothing is taken off in all
    have hstart : (trimStart t).length ≤ t.length := (List.dropWhile_sublist isBlank).length_le
    have hend : (trim t).length ≤ (trimStart t).length := by
      rw [trim, trimEnd, List.length_reverse]
      exact Nat.le_trans (List.dropWhile_sublist isBlank).length_le (by simp)
    have hsame : trimStart t = t := by
      refine (List.dropWhile_suffix isBlank).eq_of_length ?_
      rw [h] at hend
      exact Nat.le_antisymm hstart hend
    refine ⟨hsame, ?_⟩
    rwa [trim, hsame] at h
  · rintro ⟨hstart, hend⟩
    rw [trim, hstart, hend]

/-- A first character that is no blank is not taken off at the end. -/
theorem trimEnd_cons {c : Char} (hc : isBlank c = false) (t : Text) :
    trimEnd (c :: t) = c :: trimEnd t := by
  rw [trimEnd, List.reverse_cons, List.dropWhile_append]
  split
  · rename_i hempty
    rw [trimEnd, List.isEmpty_iff.mp hempty]
    simp [hc]
  · simp [trimEnd]

/-! ## Phrases -/

/-- A text that can stand for a name, or for what a step says. -/
structure IsPhrase (t : Text) : Prop where
  /-- It is not empty. -/
  ne_nil : t ≠ []
  /-- It has no blanks around it. -/
  trimmed : trim t = t
  /-- It has no `#` after a blank, or at its beginning, where a blank goes before it. -/
  uncommented : ∀ p ∈ (' ' :: t).zip t, isBlank p.1 = true → p.2 ≠ '#'
  /-- It stands on one line. -/
  single : '\n' ∉ t ∧ '\r' ∉ t

instance : DecidablePred IsPhrase := fun t =>
  decidable_of_iff (t ≠ [] ∧ trim t = t ∧
      (∀ p ∈ (' ' :: t).zip t, isBlank p.1 = true → p.2 ≠ '#') ∧ '\n' ∉ t ∧ '\r' ∉ t)
    ⟨fun ⟨hne, htrim, hplain, hsingle⟩ => ⟨hne, htrim, hplain, hsingle⟩,
      fun h => ⟨h.ne_nil, h.trimmed, h.uncommented, h.single⟩⟩

/-- A line that is read as it stands: it is not indented and has no comment. -/
structure IsWhole (raw : Text) : Prop where
  ne_nil : raw ≠ []
  indent : indentWidth raw = 0
  stripped : Line.stripComment raw = raw
  single : '\n' ∉ raw ∧ '\r' ∉ raw

/-- A line may begin so: not with a blank, and on one line without a comment. -/
def OpensLine (lead : Text) : Prop :=
  lead.head?.any (fun c => !isBlank c) = true ∧ '#' ∉ lead ∧ '\n' ∉ lead ∧ '\r' ∉ lead

instance (lead : Text) : Decidable (OpensLine lead) := inferInstanceAs (Decidable (_ ∧ _))

/-- What follows a character has no comment if no `#` follows a blank. -/
theorem beforeComment_eq_self {c : Char} {t : Text}
    (h : ∀ p ∈ (c :: t).zip t, isBlank p.1 = true → p.2 ≠ '#') :
    Line.beforeComment (isBlank c) t = t := by
  induction t generalizing c with
  | nil => rfl
  | cons d t ih =>
    rw [List.zip_cons_cons] at h
    have hfirst : ¬(d = '#' ∧ isBlank c = true) := fun hboth =>
      h (c, d) List.mem_cons_self hboth.2 hboth.1
    rw [Line.beforeComment, if_neg hfirst, ih fun p hp => h p (List.mem_cons_of_mem _ hp)]

/-- A beginning without `#` keeps what follows free of comments. -/
theorem beforeComment_append {lead t : Text} (hlead : '#' ∉ lead)
    (h : ∀ opens, Line.beforeComment opens t = t) (opens : Bool) :
    Line.beforeComment opens (lead ++ t) = lead ++ t := by
  induction lead generalizing opens with
  | nil => exact h opens
  | cons c lead ih =>
    obtain ⟨hc, hlead⟩ := not_or.mp (mt List.mem_cons.mpr hlead)
    have hfirst : ¬(c = '#' ∧ opens = true) := fun hboth => hc hboth.1.symm
    rw [List.cons_append, Line.beforeComment, if_neg hfirst, ih hlead]

/-- A line is not indented if its first character is no blank. -/
theorem indentWidth_eq_zero {t : Text} (h : ∀ c ∈ t.head?, isBlank c = false) :
    indentWidth t = 0 := by
  cases t with
  | nil => rfl
  | cons c t => simp [indentWidth, leadingBlanks, h c rfl]

namespace IsPhrase

variable {t : Text}

/-- No part of a phrase is a comment, wherever the phrase stands. -/
theorem beforeComment (h : IsPhrase t) (opens : Bool) : Line.beforeComment opens t = t := by
  cases t with
  | nil => rfl
  | cons c t =>
    have hall := h.uncommented
    rw [List.zip_cons_cons] at hall
    have hc : c ≠ '#' := hall (' ', c) List.mem_cons_self rfl
    rw [Line.beforeComment, if_neg fun hboth => hc hboth.1,
      beforeComment_eq_self fun p hp => hall p (List.mem_cons_of_mem _ hp)]

/-- The last character of a phrase is no blank. -/
theorem getLast? (h : IsPhrase t) : ∀ c ∈ t.getLast?, isBlank c = false :=
  (trim_eq_self_iff.mp h.trimmed).2

/-- A beginning and a phrase are a line that is read as it stands. -/
theorem isWhole_append (h : IsPhrase t) {lead : Text} (hlead : OpensLine lead) :
    IsWhole (lead ++ t) := by
  obtain ⟨hstart, hcomment, hfeed, hreturn⟩ := hlead
  have hhead : ∀ c ∈ (lead ++ t).head?, isBlank c = false := by
    cases lead with
    | nil => cases hstart
    | cons c lead => simpa using hstart
  refine ⟨by simp [h.ne_nil], indentWidth_eq_zero hhead, ?_, ?_⟩
  · rw [Line.stripComment, beforeComment_append hcomment h.beforeComment, trim_eq_self_iff]
    refine ⟨hhead, ?_⟩
    rw [List.getLast?_append, Option.or_of_isSome]
    · exact h.getLast?
    · simpa using h.ne_nil
  · exact ⟨by simp [h.single.1, hfeed], by simp [h.single.2, hreturn]⟩

end IsPhrase

/-! ## Lines of a text -/

/-- The lines in a row, with a line feed after each. -/
def writeLines (ls : List Text) : Text := ls.flatMap (· ++ ['\n'])

/-- The lines of two lists are written one after the other. -/
theorem writeLines_append (ls ls' : List Text) :
    writeLines (ls ++ ls') = writeLines ls ++ writeLines ls' :=
  List.flatMap_append

/-- Lists of lines are written one after the other. -/
theorem writeLines_flatMap {α : Type} (f : α → List Text) (l : List α) :
    writeLines (l.flatMap f) = l.flatMap fun a => writeLines (f a) :=
  List.flatMap_assoc

/-- The first line ends at the first line feed. -/
theorem lines_append {line : Text} (h : '\n' ∉ line ∧ '\r' ∉ line) (rest : Text) :
    lines (line ++ '\n' :: rest) = line :: lines rest := by
  induction line with
  | nil => rfl
  | cons c line ih =>
    obtain ⟨⟨hc, hline⟩, ⟨hc', hline'⟩⟩ := And.intro (not_or.mp (mt List.mem_cons.mpr h.1))
      (not_or.mp (mt List.mem_cons.mpr h.2))
    rw [List.cons_append, lines, ih ⟨hline, hline'⟩]
    · exact fun heq => hc heq.symm
    · exact fun _ heq => absurd heq.symm hc'

/-- Lines that are written one after the other are read as these lines. -/
theorem lines_writeLines {ls : List Text} (h : ∀ line ∈ ls, '\n' ∉ line ∧ '\r' ∉ line) :
    lines (writeLines ls) = ls := by
  induction ls with
  | nil => rfl
  | cons line rest ih =>
    have hwrite : writeLines (line :: rest) = line ++ '\n' :: writeLines rest := by
      simp [writeLines]
    rw [hwrite, lines_append (h line List.mem_cons_self),
      ih fun l hl => h l (List.mem_cons_of_mem _ hl)]

end Text

end FeatureDoc
