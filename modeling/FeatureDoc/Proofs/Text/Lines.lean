/-
# Lines in their place

A text is its lines, each with what ends it: a line feed, a carriage return and a line feed, or
nothing behind the last line. Lines can be exchanged for others without touching their ends.

* `lines_induction` : every text is built up from its lines;
* `lines_append_of_endsLine` : the lines of two texts in a row are those of both, if the first one
  ends its last line;
* `lines_withLines` : a text in which other lines stand in the place of its own has these lines;
* `lines_unlines` : lines that are put together again lose carriage returns at their ends.
-/
import FeatureDoc.Proofs.Text.Phrase
import Mathlib.Data.List.Forall2

namespace FeatureDoc

namespace Text

/-! ## One line -/

/-- A line without the carriage return at its end. -/
def chomp (l : Text) : Text := if l.getLast? = some '\r' then l.dropLast else l

/-- A line that does not end in a carriage return stays as it is. -/
theorem chomp_eq_self {l : Text} (h : l.getLast? ≠ some '\r') : chomp l = l := if_neg h

/-- A carriage return at the end is taken off. -/
@[simp] theorem chomp_concat (l : Text) : chomp (l ++ ['\r']) = l := by
  simp [chomp]

/-- A line is what is left of it, or that with a carriage return. -/
theorem eq_chomp_or_eq_concat (l : Text) : l = chomp l ∨ l = chomp l ++ ['\r'] := by
  by_cases h : l.getLast? = some '\r'
  · right
    obtain ⟨front, rfl⟩ := List.getLast?_eq_some_iff.mp h
    rw [chomp_concat]
  · exact Or.inl (chomp_eq_self h).symm

/-- Behind its first character a line ends as it does. -/
theorem chomp_cons {c : Char} {l : Text} (h : l ≠ []) : chomp (c :: l) = c :: chomp l := by
  have hlast : (c :: l).getLast? = l.getLast? := by
    rw [List.getLast?_cons, List.getLast?_eq_some_getLast h, Option.getD_some]
  unfold chomp
  rw [hlast]
  split
  · rw [List.dropLast_cons_of_ne_nil h]
  · rfl

/-- A line ends at its line feed, and a carriage return before that is no part of it. -/
theorem lines_append_feed {l : Text} (h : '\n' ∉ l) (rest : Text) :
    lines (l ++ '\n' :: rest) = chomp l :: lines rest := by
  induction l with
  | nil => rfl
  | cons c l ih =>
    obtain ⟨hc, hl⟩ := not_or.mp (mt List.mem_cons.mpr h)
    have hc' : ¬c = '\n' := fun heq => hc heq.symm
    cases l with
    | nil =>
      by_cases hreturn : c = '\r'
      · subst hreturn
        rfl
      · rw [chomp_eq_self (by simpa using hreturn)]
        show lines (c :: '\n' :: rest) = _
        rw [lines]
        · rfl
        · exact hc'
        · exact fun _ heq => absurd heq hreturn
    | cons b l =>
      have hb : ¬b = '\n' := fun heq => (not_or.mp (mt List.mem_cons.mpr hl)).1 heq.symm
      rw [chomp_cons (List.cons_ne_nil _ _), List.cons_append, lines, ih hl]
      · exact hc'
      · intro _ _ heq
        exact hb (List.cons.inj heq).1

/-- A text without a line feed is a single line. -/
theorem lines_eq_singleton {l : Text} (hne : l ≠ []) (h : '\n' ∉ l) : lines l = [l] := by
  induction l with
  | nil => exact absurd rfl hne
  | cons c l ih =>
    obtain ⟨hc, hl⟩ := not_or.mp (mt List.mem_cons.mpr h)
    rw [lines]
    · by_cases hnil : l = []
      · rw [hnil]
        rfl
      · rw [ih hnil hl]
    · exact fun heq => hc heq.symm
    · rintro rest - rfl
      exact hl List.mem_cons_self

/-! ## Lines and their ends -/

/-- A line and what ends it. -/
inductive Closes : Text → Text → Prop
  | feed {l : Text} (hfeed : '\n' ∉ l) (hreturn : l.getLast? ≠ some '\r') : Closes l ['\n']
  | returnFeed {l : Text} (hfeed : '\n' ∉ l) : Closes l ['\r', '\n']

/-- What ends the lines of a text, in their order; the end of the last line may be empty. -/
def lineEnds : Text → List Text
  | [] => []
  | '\n' :: rest => ['\n'] :: lineEnds rest
  | '\r' :: '\n' :: rest => ['\r', '\n'] :: lineEnds rest
  | _ :: rest =>
    match lineEnds rest with
    | [] => [[]]
    | e :: more => e :: more

/-- A text with other lines in the place of its own. -/
def withLines (t : Text) (ls : List Text) : Text := (List.zipWith (· ++ ·) ls (lineEnds t)).flatten

/-- The first line of a text is the one before the first end. -/
theorem Closes.lines_append {l e : Text} (h : Closes l e) (rest : Text) :
    lines (l ++ e ++ rest) = l :: lines rest := by
  rw [List.append_assoc]
  cases h with
  | feed hfeed hreturn =>
    show lines (l ++ '\n' :: rest) = _
    rw [lines_append_feed hfeed, chomp_eq_self hreturn]
  | returnFeed hfeed =>
    have hassoc : l ++ (['\r', '\n'] ++ rest) = (l ++ ['\r']) ++ '\n' :: rest := by simp
    rw [hassoc, lines_append_feed (by simpa using hfeed), chomp_concat]

/-- The first end of a text is the one behind its first line. -/
theorem Closes.lineEnds_append {l e : Text} (h : Closes l e) (rest : Text) :
    lineEnds (l ++ e ++ rest) = e :: lineEnds rest := by
  rw [List.append_assoc]
  -- the ends do not change with a character more in front of the line
  have hcons : ∀ {c : Char} {t : Text}, c ≠ '\n' → (c = '\r' → t.head? ≠ some '\n') →
      lineEnds t = e :: lineEnds rest → lineEnds (c :: t) = e :: lineEnds rest := by
    intro c t hc hreturn ht
    rw [lineEnds, ht]
    · exact hc
    · rintro _ heq rfl
      exact hreturn heq rfl
  cases h with
  | feed hfeed hreturn =>
    induction l with
    | nil => rfl
    | cons c l ih =>
      obtain ⟨hc, hl⟩ := not_or.mp (mt List.mem_cons.mpr hfeed)
      cases l with
      | nil =>
        have hc' : c ≠ '\r' := by simpa using hreturn
        exact hcons (fun heq => hc heq.symm) (fun heq => absurd heq hc') rfl
      | cons b l =>
        have hb : b ≠ '\n' := fun heq => (not_or.mp (mt List.mem_cons.mpr hl)).1 heq.symm
        have hlast : (b :: l).getLast? ≠ some '\r' := by
          rwa [List.getLast?_cons_cons] at hreturn
        exact hcons (fun heq => hc heq.symm) (fun _ heq => hb (Option.some.inj heq))
          (ih hl hlast)
  | returnFeed hfeed =>
    induction l with
    | nil => rfl
    | cons c l ih =>
      obtain ⟨hc, hl⟩ := not_or.mp (mt List.mem_cons.mpr hfeed)
      refine hcons (fun heq => hc heq.symm) (fun _ => ?_) (ih hl)
      cases l with
      | nil => exact fun heq => absurd (Option.some.inj heq) (by decide)
      | cons b l => exact fun heq => hl (Option.some.inj heq ▸ List.mem_cons_self)

/-- A text without a line feed has a single line without an end. -/
theorem lineEnds_eq_singleton {l : Text} (hne : l ≠ []) (h : '\n' ∉ l) : lineEnds l = [[]] := by
  induction l with
  | nil => exact absurd rfl hne
  | cons c l ih =>
    obtain ⟨hc, hl⟩ := not_or.mp (mt List.mem_cons.mpr h)
    rw [lineEnds]
    · by_cases hnil : l = []
      · rw [hnil]
        rfl
      · rw [ih hnil hl]
    · exact fun heq => hc heq.symm
    · rintro rest - rfl
      exact hl List.mem_cons_self

/-- Every text is empty, or a line without an end, or a line with its end and a text below it. -/
theorem lines_induction {P : Text → Prop} (nil : P [])
    (last : ∀ l : Text, l ≠ [] → '\n' ∉ l → P l)
    (line : ∀ l e rest : Text, Closes l e → P rest → P (l ++ e ++ rest)) (t : Text) : P t := by
  induction hlength : t.length using Nat.strongRecOn generalizing t with
  | _ n ih =>
    cases hcut : cutAt? '\n' t with
    | none =>
      by_cases hne : t = []
      · exact hne ▸ nil
      · exact last t hne (cutAt?_eq_none_iff.mp hcut)
    | some parts =>
      obtain ⟨left, rest⟩ := parts
      obtain ⟨rfl, hleft⟩ := cutAt?_eq_some_iff.mp hcut
      have hrest : P rest := ih rest.length (by simp at hlength; omega) rest rfl
      by_cases hreturn : left.getLast? = some '\r'
      · obtain ⟨front, rfl⟩ := List.getLast?_eq_some_iff.mp hreturn
        have hfront : '\n' ∉ front := fun hmem => hleft (List.mem_append_left _ hmem)
        simpa using line front ['\r', '\n'] rest (.returnFeed hfront) hrest
      · simpa using line left ['\n'] rest (.feed hleft hreturn) hrest

/-- The lines of two texts in a row are those of both, if the first one ends its last line. -/
theorem lines_append_of_endsLine {x : Text} (hx : x = [] ∨ x.getLast? = some '\n') (s : Text) :
    lines (x ++ s) = lines x ++ lines s := by
  induction x using lines_induction with
  | nil => rfl
  | last l hne hfeed =>
    exact absurd (List.mem_of_getLast? (hx.resolve_left hne)) hfeed
  | line l e rest hcloses ih =>
    have hrest : rest = [] ∨ rest.getLast? = some '\n' := by
      by_cases hnil : rest = []
      · exact Or.inl hnil
      · have hlast := hx.resolve_left (by simp [hnil])
        rw [List.getLast?_append_of_ne_nil _ hnil] at hlast
        exact Or.inr hlast
    rw [List.append_assoc, hcloses.lines_append, hcloses.lines_append, ih hrest,
      List.cons_append]

/-! ## Other lines in the same places -/

/-- A line that can stand in the place of another one, with the same end: it holds no line feed,
it ends in a carriage return only if the other one does, and it is not empty where no end follows
that would show it. -/
structure Replaces (l l' : Text) : Prop where
  feed : '\n' ∉ l'
  carriageReturn : l'.getLast? = some '\r' → l.getLast? = some '\r'
  ne_nil : l ≠ [] → l' ≠ []

/-- The end of a line is the end of a line in its place. -/
theorem Closes.replace {l l' e : Text} (h : Closes l e) (hl' : Replaces l l') : Closes l' e := by
  cases h with
  | feed _ hreturn => exact .feed hl'.feed fun heq => hreturn (hl'.carriageReturn heq)
  | returnFeed => exact .returnFeed hl'.feed

/-- Behind its first line a text stays as it is while another line stands in the place of that. -/
theorem Closes.withLines_append {l e : Text} (h : Closes l e) (rest l' : Text) (ls : List Text) :
    withLines (l ++ e ++ rest) (l' :: ls) = l' ++ e ++ withLines rest ls := by
  rw [withLines, h.lineEnds_append, List.zipWith_cons_cons, List.flatten_cons, withLines]

/-- A text with its own lines in their places is the text itself. -/
theorem withLines_lines (t : Text) : t.withLines (lines t) = t := by
  induction t using lines_induction with
  | nil => rfl
  | last l hne hfeed =>
    rw [withLines, lines_eq_singleton hne hfeed, lineEnds_eq_singleton hne hfeed]
    simp
  | line l e rest hcloses ih => rw [hcloses.lines_append, hcloses.withLines_append, ih]

/-- A text in which other lines stand in the place of its own has these lines. -/
theorem lines_withLines {t : Text} {ls : List Text} (h : List.Forall₂ Replaces (lines t) ls) :
    lines (t.withLines ls) = ls := by
  induction t using lines_induction generalizing ls with
  | nil =>
    cases h
    rfl
  | last l hne hfeed =>
    rw [lines_eq_singleton hne hfeed] at h
    cases h with
    | cons hl' hnil =>
      cases hnil
      rename_i l'
      have hwith : withLines l [l'] = l' := by
        rw [withLines, lineEnds_eq_singleton hne hfeed]
        simp
      rw [hwith, lines_eq_singleton (hl'.ne_nil hne) hl'.feed]
  | line l e rest hcloses ih =>
    rw [hcloses.lines_append] at h
    cases h with
    | cons hl' hrest =>
      rw [hcloses.withLines_append, (hcloses.replace hl').lines_append, ih hrest]

/-! ## Lines put together again -/

/-- No line of a text holds a line feed. -/
theorem feed_notMem_of_mem_lines {t l : Text} (h : l ∈ lines t) : '\n' ∉ l := by
  induction t using lines_induction with
  | nil => exact absurd h List.not_mem_nil
  | last l' hne hfeed =>
    rw [lines_eq_singleton hne hfeed] at h
    rwa [List.mem_singleton.mp h]
  | line l' e rest hcloses ih =>
    rw [hcloses.lines_append] at h
    rcases List.mem_cons.mp h with rfl | hrest
    · cases hcloses <;> assumption
    · exact ih hrest

/-- Lines that are put together again lose carriage returns at their ends, except that of the last
one, which is lost itself if it is empty. -/
theorem lines_unlines_concat {ls : List Text} {last : Text} (hls : ∀ l ∈ ls, '\n' ∉ l)
    (hlast : '\n' ∉ last) :
    lines (unlines (ls ++ [last])) = ls.map chomp ++ if last = [] then [] else [last] := by
  induction ls with
  | nil =>
    have hunlines : unlines ([] ++ [last]) = last := by simp [unlines, List.intercalate]
    rw [hunlines]
    split
    · rename_i hnil
      rw [hnil]
      rfl
    · exact lines_eq_singleton ‹_› hlast
  | cons l ls ih =>
    have hunlines : unlines (l :: ls ++ [last]) = l ++ '\n' :: unlines (ls ++ [last]) := by
      cases ls <;> simp [unlines, List.intercalate]
    rw [hunlines, lines_append_feed (hls l List.mem_cons_self),
      ih fun l' hl' => hls l' (List.mem_cons_of_mem _ hl')]
    rfl

end Text

end FeatureDoc
