/-
# Delimiters and the text between them

The delimiters of a line are the `|` with no backslash right before them. Each cell stands between
two neighbouring delimiters, and what stands outside the outer ones is no cell.

* `splitRow_eq` : the pieces of a line stand between its delimiters and its ends;
* `splitCells_eq` : the cells stand between neighbouring delimiters;
* `splitCells_surrounded` : what stands around the delimiters of a line does not matter;
* `unescapePipes_append_pipe`, `unescapePipes_eq_self` : every `|` that is behind a backslash is
  freed from it, and nothing else changes.
-/
import FeatureDoc.Line.Cells
import Mathlib.Data.List.Basic

namespace FeatureDoc.Line

/-! ## Places of delimiters -/

/-- A delimiter stands at a place of a line: a `|` with no backslash right before it. -/
def IsDelimiter (t : Text) (i : Nat) : Prop :=
  t[i]? = some '|' ∧ (i = 0 ∨ t[i - 1]? ≠ some '\\')

instance (t : Text) : DecidablePred (IsDelimiter t) := fun _ =>
  inferInstanceAs (Decidable (_ ∧ _))

/-- The places of the delimiters of a line, from left to right. -/
def delimiters (t : Text) : List Nat := (List.range t.length).filter (IsDelimiter t ·)

/-- A delimiter stands on its line. -/
theorem IsDelimiter.lt_length {t : Text} {i : Nat} (h : IsDelimiter t i) :
    i < t.length :=
  (List.getElem?_eq_some_iff.mp h.1).1

/-- Behind its first character a line has a `|` as a delimiter unless that follows a backslash. -/
theorem isDelimiter_cons_iff {c : Char} {t : Text} {i : Nat} :
    IsDelimiter (c :: t) (i + 1) ↔ t[i]? = some '|' ∧ (c :: t)[i]? ≠ some '\\' := by
  simp [IsDelimiter]

/-- Behind a text that does not end in a backslash a line has the same delimiters. -/
theorem isDelimiter_append_iff {before t : Text} (h : before.getLast? ≠ some '\\') {i : Nat} :
    IsDelimiter (before ++ t) (before.length + i) ↔ IsDelimiter t i := by
  have hplace : (before ++ t)[before.length + i]? = t[i]? := by
    rw [List.getElem?_append_right (Nat.le_add_right _ _), Nat.add_sub_cancel_left]
  rw [IsDelimiter, IsDelimiter, hplace]
  refine and_congr_right fun _ => ?_
  cases i with
  | zero =>
    rcases List.eq_nil_or_concat before with rfl | ⟨front, last, rfl⟩
    · simp
    · simpa using h
  | succ i =>
    have hprevious : (before ++ t)[before.length + (i + 1) - 1]? = t[i]? := by
      rw [List.getElem?_append_right (by omega)]
      congr 1
      omega
    rw [hprevious]
    simp

/-- The delimiters of a text are the same in front of another text. -/
theorem isDelimiter_append_iff_of_lt {line after : Text} {i : Nat} (h : i < line.length) :
    IsDelimiter (line ++ after) i ↔ IsDelimiter line i := by
  rw [IsDelimiter, IsDelimiter, List.getElem?_append_left h,
    List.getElem?_append_left (Nat.lt_of_le_of_lt (Nat.sub_le i 1) h)]

/-- Behind a text that has no delimiters and does not end in a backslash the delimiters of a line
are moved. -/
theorem delimiters_append {before : Text} (h : ∀ i, ¬IsDelimiter before i)
    (hlast : before.getLast? ≠ some '\\') (line : Text) :
    delimiters (before ++ line) = (delimiters line).map (before.length + ·) := by
  have hfront : (List.range before.length).filter (IsDelimiter (before ++ line) ·) = [] := by
    refine List.filter_eq_nil_iff.mpr fun i hi => ?_
    rw [decide_eq_true_iff, isDelimiter_append_iff_of_lt (List.mem_range.mp hi)]
    exact h i
  rw [delimiters, List.length_append, List.range_add, List.filter_append, hfront, List.nil_append,
    List.filter_map, delimiters]
  congr 1
  refine List.filter_congr fun i _ => ?_
  exact decide_eq_decide.mpr (isDelimiter_append_iff hlast)

/-- In front of a text that has no delimiters the delimiters of a line are the same. -/
theorem delimiters_append_of_none {after : Text} (h : ∀ i, ¬IsDelimiter after i) (line : Text) :
    delimiters (line ++ after) = delimiters line := by
  have hback : ((List.range after.length).map (line.length + ·)).filter
      (IsDelimiter (line ++ after) ·) = [] := by
    refine List.filter_eq_nil_iff.mpr fun i hi => ?_
    obtain ⟨j, -, rfl⟩ := List.mem_map.mp hi
    rw [decide_eq_true_iff]
    rintro ⟨hpipe, hfree⟩
    rw [List.getElem?_append_right (Nat.le_add_right _ _), Nat.add_sub_cancel_left] at hpipe
    refine h j ⟨hpipe, ?_⟩
    cases j with
    | zero => exact Or.inl rfl
    | succ j =>
      rw [List.getElem?_append_right (by omega)] at hfree
      simpa [Nat.add_sub_cancel_left, show line.length + (j + 1) - 1 - line.length = j by omega]
        using hfree
  rw [delimiters, List.length_append, List.range_add, List.filter_append, hback, List.append_nil,
    delimiters]
  refine List.filter_congr fun i hi => ?_
  exact decide_eq_decide.mpr (isDelimiter_append_iff_of_lt (List.mem_range.mp hi))

/-- The delimiters of a line behind its first character, given that character. -/
def delimitersBehind (c : Char) (rest : Text) : List Nat :=
  (List.range rest.length).filter fun i => IsDelimiter (c :: rest) (i + 1)

/-- The delimiters behind a character are the one that follows it, if it does, and those behind
the next character. -/
theorem delimitersBehind_cons (b c : Char) (rest : Text) :
    delimitersBehind b (c :: rest) =
      (if c = '|' ∧ b ≠ '\\' then [0] else []) ++ (delimitersBehind c rest).map (· + 1) := by
  have hfirst : IsDelimiter (b :: c :: rest) (0 + 1) ↔ c = '|' ∧ b ≠ '\\' := by
    simp [isDelimiter_cons_iff]
  have hrest : ∀ i, IsDelimiter (b :: c :: rest) (i + 1 + 1) ↔ IsDelimiter (c :: rest) (i + 1) := by
    intro i
    simp [isDelimiter_cons_iff]
  rw [delimitersBehind, List.length_cons, List.range_succ_eq_map, List.filter_cons,
    List.filter_map]
  simp only [hfirst, Function.comp_def, hrest, decide_eq_true_iff]
  split <;> rfl

/-- The delimiters of a line are those behind a character that is no backslash. -/
theorem delimitersBehind_eq {c : Char} (hc : c ≠ '\\') (line : Text) :
    delimitersBehind c line = delimiters line := by
  refine List.filter_congr fun i _ => decide_eq_decide.mpr ?_
  have hlast : [c].getLast? ≠ some '\\' := fun h => hc (Option.some.inj h)
  have hmoved : IsDelimiter ([c] ++ line) ([c].length + i) ↔ IsDelimiter line i :=
    isDelimiter_append_iff hlast
  rwa [List.length_singleton, Nat.add_comm 1 i] at hmoved

/-! ## Neighbours -/

/-- The neighbouring members of a list. -/
def neighbours (l : List Nat) : List (Nat × Nat) := l.zip l.tail

/-- Two members at the beginning of a list are neighbours. -/
theorem neighbours_cons (a b : Nat) (l : List Nat) :
    neighbours (a :: b :: l) = (a, b) :: neighbours (b :: l) :=
  rfl

/-- Neighbours are changed together. -/
theorem neighbours_map (f : Nat → Nat) (l : List Nat) :
    neighbours (l.map f) = (neighbours l).map (Prod.map f f) := by
  rw [neighbours, ← List.map_tail, List.zip_map]
  rfl

/-- Without a first and a last member there is one pair of neighbours less at both ends. -/
theorem tail_dropLast_neighbours (a b : Nat) (l : List Nat) :
    (neighbours (a :: (l ++ [b]))).tail.dropLast = neighbours l := by
  have hlast : ∀ (a : Nat) (l : List Nat), (neighbours (a :: (l ++ [b]))).dropLast =
      neighbours (a :: l) := by
    intro a l
    induction l generalizing a with
    | nil => rfl
    | cons c l ih =>
      rw [List.cons_append, neighbours_cons, List.dropLast_cons_of_ne_nil, ih, neighbours_cons]
      cases l <;> exact List.cons_ne_nil _ _
  cases l with
  | nil => rfl
  | cons c l =>
    rw [List.cons_append, neighbours_cons, List.tail_cons, hlast]

/-- The text between two places of a line. -/
def between (line : Text) (places : Nat × Nat) : Text := (line.take places.2).drop (places.1 + 1)

/-- Behind another text the places are moved. -/
theorem between_append (before line : Text) (places : Nat × Nat) :
    between (before ++ line) (Prod.map (before.length + ·) (before.length + ·) places) =
      between line places := by
  rw [between, Prod.map_fst, Prod.map_snd, List.take_length_add_append, Nat.add_assoc,
    List.drop_length_add_append, between]

/-! ## Pieces of a line -/

/-- The pieces of a line stand between its ends and its delimiters. -/
theorem splitRow_eq (b : Char) (line : Text) :
    splitRow (b = '\\') line =
      (neighbours (0 :: (delimitersBehind b line ++ [line.length]).map (· + 1))).map
        (between (b :: line)) := by
  induction line generalizing b with
  | nil => rfl
  | cons c rest ih =>
    -- the places behind the next character are moved by one
    have hshift : ∀ l : List Nat, (neighbours (l.map (· + 1))).map (between (b :: c :: rest)) =
        (neighbours l).map (between (c :: rest)) := by
      intro l
      rw [neighbours_map, List.map_map]
      refine List.map_congr_left fun places _ => ?_
      simpa [Prod.map, Nat.add_comm] using between_append [b] (c :: rest) places
    have hplaces : delimitersBehind b (c :: rest) ++ [(c :: rest).length] =
        (if c = '|' ∧ b ≠ '\\' then [0] else []) ++
          (delimitersBehind c rest ++ [rest.length]).map (· + 1) := by
      rw [delimitersBehind_cons, List.append_assoc, List.map_append]
      rfl
    rw [splitRow, hplaces]
    by_cases hdelimiter : c = '|' ∧ b ≠ '\\'
    · obtain ⟨rfl, hb⟩ := hdelimiter
      have hpieces : splitRow false rest = _ := ih '|'
      rw [if_pos ⟨rfl, by simpa using hb⟩, if_pos ⟨rfl, hb⟩, hpieces, ← hshift]
      rfl
    · obtain ⟨first, more, hfirst⟩ :
          ∃ first more, delimitersBehind c rest ++ [rest.length] = first :: more :=
        List.exists_cons_of_ne_nil (by simp)
      have hmore := hshift ((first :: more).map (· + 1))
      rw [if_neg (by simpa using hdelimiter), if_neg hdelimiter, ih c, hfirst]
      simp only [List.nil_append, List.map_cons, neighbours_cons] at hmore ⊢
      rw [hmore]
      rfl

/-- The cells of a row stand between neighbouring delimiters. -/
theorem splitCells_eq (line : Text) :
    splitCells line = (neighbours (delimiters line)).map fun places =>
      Text.trim (unescapePipes (between line places)) := by
  have hpieces : splitRow false line = _ := splitRow_eq ' ' line
  rw [delimitersBehind_eq (by decide), List.map_append] at hpieces
  rw [splitCells, hpieces, ← List.map_tail, ← List.map_dropLast, List.map_singleton,
    tail_dropLast_neighbours, neighbours_map, List.map_map, List.map_map]
  refine List.map_congr_left fun places _ => ?_
  have hmoved := between_append [' '] line places
  simp only [List.length_singleton, Nat.add_comm 1] at hmoved
  exact congrArg (fun piece => Text.trim (unescapePipes piece)) hmoved

/-- What stands around the delimiters of a line does not matter to its cells. -/
theorem splitCells_surrounded {before after : Text} (hbefore : ∀ i, ¬IsDelimiter before i)
    (hlast : before.getLast? ≠ some '\\') (hafter : ∀ i, ¬IsDelimiter after i) (line : Text) :
    splitCells (before ++ line ++ after) = splitCells line := by
  have hdelimiters : delimiters (before ++ line ++ after) =
      (delimiters line).map (before.length + ·) := by
    rw [delimiters_append_of_none hafter, delimiters_append hbefore hlast]
  rw [splitCells_eq, splitCells_eq, hdelimiters, neighbours_map, List.map_map]
  refine List.map_congr_left fun places hplaces => ?_
  have hend : places.2 ≤ line.length := by
    have hmem := (List.of_mem_zip hplaces).2
    have hdelimiter := (List.mem_filter.mp (List.mem_of_mem_tail hmem)).2
    exact Nat.le_of_lt (of_decide_eq_true hdelimiter : IsDelimiter line _).lt_length
  have hcut : between (before ++ line ++ after) (Prod.map (before.length + ·)
      (before.length + ·) places) = between line places := by
    rw [List.append_assoc, between_append, between, List.take_append_of_le_length hend, between]
  exact congrArg (fun piece => Text.trim (unescapePipes piece)) hcut

/-- A text without a `|` has no delimiters. -/
theorem not_isDelimiter_of_notMem {t : Text} (h : '|' ∉ t) (i : Nat) : ¬IsDelimiter t i :=
  fun hdelimiter => h (List.mem_of_getElem? hdelimiter.1)

/-! ## Delimiters in a cell -/

/-- A character keeps its place unless it is a backslash before a `|`. -/
theorem unescapePipes_cons {c : Char} {t : Text} (h : t.head? ≠ some '|') :
    unescapePipes (c :: t) = c :: unescapePipes t := by
  rw [unescapePipes]
  rintro rest rfl rfl
  exact h rfl

/-- A `|` that follows a backslash is freed from it. -/
theorem unescapePipes_append_pipe (a b : Text) :
    unescapePipes (a ++ '\\' :: '|' :: b) = unescapePipes a ++ '|' :: unescapePipes b := by
  fun_induction unescapePipes a with
  | case1 => rfl
  | case2 rest ih => exact congrArg ('|' :: ·) ih
  | case3 c rest hfree ih =>
    rw [List.cons_append, unescapePipes, ih, List.cons_append]
    rintro more hc heq
    cases rest with
    | nil => exact absurd (List.cons.inj heq).1 (by decide)
    | cons d rest => exact hfree rest hc (by rw [(List.cons.inj heq).1])

/-- A text in which no `|` follows a backslash stays as it is. -/
theorem unescapePipes_eq_self {t : Text} (h : ∀ a b, t ≠ a ++ '\\' :: '|' :: b) :
    unescapePipes t = t := by
  fun_induction unescapePipes t with
  | case1 => rfl
  | case2 rest => exact absurd rfl (h [] rest)
  | case3 c rest hfree ih => rw [ih fun a b heq => h (c :: a) b (by rw [heq]; rfl)]

end FeatureDoc.Line
