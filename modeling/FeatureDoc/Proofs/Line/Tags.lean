/-
# Tag lines that are written

Tags are words. A line of tags puts an `@` before each of them and a space between two of them.

* `isWhole_writeTags` : a line of tags is read as it stands;
* `parseTags_writeTags` : the tags of a line of tags are the ones that were written.
-/
import FeatureDoc.Line.Tags
import FeatureDoc.Proofs.Text.Phrase

namespace FeatureDoc.Line

/-- A word that can stand for a tag. -/
structure IsTag (tag : Text) : Prop where
  ne_nil : tag ≠ []
  /-- It has no blanks. -/
  noBlank : ∀ c ∈ tag, Text.isBlank c = false
  /-- It does not begin with the mark of tags. -/
  noMark : tag.head? ≠ some '@'

instance : DecidablePred IsTag := fun tag =>
  decidable_of_iff
    (tag ≠ [] ∧ tag.all (fun c => !Text.isBlank c) = true ∧ tag.head? ≠ some '@')
    ⟨fun ⟨hne, hblank, hmark⟩ => ⟨hne, by simpa using hblank, hmark⟩,
      fun h => ⟨h.ne_nil, by simpa using h.noBlank, h.noMark⟩⟩

/-- The line of some tags. -/
def writeTags (tags : List Text) : Text := Pieces.joined " " (tags.map fun tag => '@' :: tag)

/-- Tags behind another one. -/
def writeMore (tags : List Text) : Text := tags.flatMap fun tag => ' ' :: '@' :: tag

/-- The first tag stands at the beginning, the others behind it. -/
theorem writeTags_cons (tag : Text) (tags : List Text) :
    writeTags (tag :: tags) = '@' :: tag ++ writeMore tags := by
  induction tags generalizing tag with
  | nil => simp [writeTags, writeMore, Pieces.joined, List.intercalate]
  | cons t tags ih =>
    have hjoined : writeTags (tag :: t :: tags) = '@' :: tag ++ ' ' :: writeTags (t :: tags) := by
      simp [writeTags, Pieces.joined, List.intercalate]
    rw [hjoined, ih]
    simp [writeMore]

/-! ## A line of tags as a line -/

/-- A word keeps what follows free of comments. -/
theorem beforeComment_word {w : Text} (hw : ∀ c ∈ w, Text.isBlank c = false) (rest : Text) :
    beforeComment false (w ++ rest) = w ++ beforeComment false rest := by
  induction w with
  | nil => rfl
  | cons c w ih =>
    rw [List.cons_append, beforeComment, if_neg (by simp), hw c List.mem_cons_self,
      ih fun d hd => hw d (List.mem_cons_of_mem _ hd), List.cons_append]

/-- No part of tags behind another one is a comment. -/
theorem beforeComment_writeMore {tags : List Text} (h : ∀ tag ∈ tags, IsTag tag) :
    beforeComment false (writeMore tags) = writeMore tags := by
  induction tags with
  | nil => rfl
  | cons t tags ih =>
    have hwrite : writeMore (t :: tags) = ' ' :: '@' :: (t ++ writeMore tags) := rfl
    have hmark : ∀ rest, beforeComment false (' ' :: '@' :: rest) =
        ' ' :: '@' :: beforeComment false rest := fun _ => rfl
    rw [hwrite, hmark, beforeComment_word (h t List.mem_cons_self).noBlank,
      ih fun t' ht' => h t' (List.mem_cons_of_mem _ ht')]

/-- No part of a line of tags is a comment. -/
theorem beforeComment_writeTags {tags : List Text} (h : ∀ tag ∈ tags, IsTag tag) :
    beforeComment true (writeTags tags) = writeTags tags := by
  cases tags with
  | nil => rfl
  | cons tag tags =>
    have hmark : ∀ rest, beforeComment true ('@' :: rest) = '@' :: beforeComment false rest :=
      fun _ => rfl
    rw [writeTags_cons, List.cons_append, hmark,
      beforeComment_word (h tag List.mem_cons_self).noBlank,
      beforeComment_writeMore fun t ht => h t (List.mem_cons_of_mem _ ht)]

/-- A text that ends with a tag does not end with a blank. -/
theorem getLast?_append_tag {tag : Text} (h : IsTag tag) (t : Text) :
    ∀ c ∈ (t ++ tag).getLast?, Text.isBlank c = false := by
  intro c hc
  rw [List.getLast?_append, Option.or_of_isSome (by simpa using h.ne_nil)] at hc
  exact h.noBlank c (List.mem_of_getLast? hc)

/-- Tags behind a text that does not end with a blank do not end with a blank. -/
theorem getLast?_append_writeMore {tags : List Text} {t : Text} (h : ∀ tag ∈ tags, IsTag tag)
    (ht : ∀ c ∈ t.getLast?, Text.isBlank c = false) :
    ∀ c ∈ (t ++ writeMore tags).getLast?, Text.isBlank c = false := by
  induction tags generalizing t with
  | nil => simpa [writeMore] using ht
  | cons tag tags ih =>
    have hwrite : t ++ writeMore (tag :: tags) = t ++ [' ', '@'] ++ tag ++ writeMore tags := by
      simp [writeMore]
    -- the text in front grows by one tag, which does not end with a blank either
    rw [hwrite]
    exact ih (fun t' ht' => h t' (List.mem_cons_of_mem _ ht'))
      (getLast?_append_tag (h tag List.mem_cons_self) _)

/-- A line of tags does not end with a blank. -/
theorem getLast?_writeTags {tags : List Text} (h : ∀ tag ∈ tags, IsTag tag) :
    ∀ c ∈ (writeTags tags).getLast?, Text.isBlank c = false := by
  cases tags with
  | nil => simp [writeTags, Pieces.joined, List.intercalate]
  | cons tag tags =>
    rw [writeTags_cons]
    exact getLast?_append_writeMore (fun t ht => h t (List.mem_cons_of_mem _ ht))
      (getLast?_append_tag (h tag List.mem_cons_self) ['@'])

/-- The only blanks in a line of tags are spaces. -/
theorem notMem_writeTags {tags : List Text} (h : ∀ tag ∈ tags, IsTag tag) {c : Char}
    (hblank : Text.isBlank c = true) (hspace : c ≠ ' ') : c ∉ writeTags tags := by
  have hnot : ∀ t, IsTag t → c ∉ t := fun t ht hc => by simp [ht.noBlank c hc] at hblank
  have hmark : c ≠ '@' := by
    rintro rfl
    cases hblank
  cases tags with
  | nil => simp [writeTags, Pieces.joined, List.intercalate]
  | cons tag tags =>
    rw [writeTags_cons]
    intro hc
    rcases List.mem_append.mp hc with hc | hc
    · rcases List.mem_cons.mp hc with hc | hc
      · exact hmark hc
      · exact hnot tag (h tag List.mem_cons_self) hc
    · obtain ⟨t, ht, hc⟩ := List.mem_flatMap.mp (show c ∈ List.flatMap _ tags from hc)
      rcases List.mem_cons.mp hc with hc | hc
      · exact hspace hc
      · rcases List.mem_cons.mp hc with hc | hc
        · exact hmark hc
        · exact hnot t (h t (List.mem_cons_of_mem _ ht)) hc

/-- A line of tags begins with the mark of tags. -/
theorem head?_writeTags {tags : List Text} (hne : tags ≠ []) :
    (writeTags tags).head? = some '@' := by
  cases tags with
  | nil => exact absurd rfl hne
  | cons tag tags => rw [writeTags_cons]; rfl

/-- A line of tags is read as it stands. -/
theorem isWhole_writeTags {tags : List Text} (hne : tags ≠ []) (h : ∀ tag ∈ tags, IsTag tag) :
    Text.IsWhole (writeTags tags) := by
  have hhead : ∀ c ∈ (writeTags tags).head?, Text.isBlank c = false := by
    rw [head?_writeTags hne]
    rintro c ⟨rfl⟩
    rfl
  refine ⟨?_, Text.indentWidth_eq_zero hhead, ?_, notMem_writeTags h rfl (by decide),
    notMem_writeTags h rfl (by decide)⟩
  · intro hnil
    have hmark := head?_writeTags hne
    rw [hnil] at hmark
    cases hmark
  · rw [stripComment, beforeComment_writeTags h, Text.trim_eq_self_iff]
    exact ⟨hhead, getLast?_writeTags h⟩

/-! ## The tags of a line of tags -/

/-- A piece without spaces ends where a space and a mark follow. -/
theorem splitTags_append {piece : Text} (hpiece : ' ' ∉ piece) (rest : Text) :
    splitTags (piece ++ ' ' :: '@' :: rest) = piece :: splitTags rest := by
  induction piece with
  | nil => rfl
  | cons c piece ih =>
    obtain ⟨hc, hpiece⟩ := not_or.mp (mt List.mem_cons.mpr hpiece)
    rw [List.cons_append, splitTags, ih hpiece]
    exact fun _ heq => absurd heq.symm hc

/-- A piece without spaces ends where the line ends. -/
theorem splitTags_self {piece : Text} (hpiece : ' ' ∉ piece) : splitTags piece = [piece] := by
  induction piece with
  | nil => rfl
  | cons c piece ih =>
    obtain ⟨hc, hpiece⟩ := not_or.mp (mt List.mem_cons.mpr hpiece)
    rw [splitTags, ih hpiece]
    exact fun _ heq => absurd heq.symm hc

/-- Tags behind a piece without spaces are pieces of their own. -/
theorem splitTags_append_writeMore {piece : Text} {tags : List Text} (hpiece : ' ' ∉ piece)
    (htags : ∀ t ∈ tags, ' ' ∉ t) : splitTags (piece ++ writeMore tags) = piece :: tags := by
  induction tags generalizing piece with
  | nil =>
    rw [show writeMore [] = [] from rfl, List.append_nil]
    exact splitTags_self hpiece
  | cons t tags ih =>
    rw [show writeMore (t :: tags) = ' ' :: '@' :: (t ++ writeMore tags) from rfl,
      splitTags_append hpiece,
      ih (htags t List.mem_cons_self) fun t' ht' => htags t' (List.mem_cons_of_mem _ ht')]

namespace IsTag

variable {tag : Text}

/-- A tag has no spaces. -/
theorem space_notMem (h : IsTag tag) : ' ' ∉ tag := by
  intro hmem
  have hblank := h.noBlank ' ' hmem
  cases hblank

/-- A tag has no blanks around it. -/
theorem trim_eq (h : IsTag tag) : Text.trim tag = tag :=
  Text.trim_eq_self_iff.mpr ⟨fun c hc => h.noBlank c (List.mem_of_head? hc),
    fun c hc => h.noBlank c (List.mem_of_getLast? hc)⟩

/-- A tag is the name of a piece that holds nothing else. -/
theorem tagName_eq (h : IsTag tag) : tagName tag = tag := by
  cases tag with
  | nil => exact absurd rfl h.ne_nil
  | cons c tag =>
    have hc : c ≠ '@' := fun heq => h.noMark (congrArg some heq)
    rw [tagName, List.dropWhile_cons_of_neg (by simpa using hc), h.trim_eq]

/-- The mark of tags is not part of the name. -/
theorem tagName_cons (h : IsTag tag) : tagName ('@' :: tag) = tag := by
  rw [tagName, List.dropWhile_cons_of_pos (by decide)]
  exact h.tagName_eq

end IsTag

/-- The tags of a line of tags are the ones that were written. -/
theorem parseTags_writeTags {tags : List Text} (hne : tags ≠ []) (h : ∀ tag ∈ tags, IsTag tag) :
    parseTags (writeTags tags) = Text.sortedSet tags := by
  have hnames : (splitTags (writeTags tags)).map tagName = tags := by
    cases tags with
    | nil => exact absurd rfl hne
    | cons tag tags =>
      have htag := h tag List.mem_cons_self
      have hrest : ∀ t ∈ tags, IsTag t := fun t ht => h t (List.mem_cons_of_mem _ ht)
      -- the first piece keeps its mark, while splitting takes that of the others away
      have hfirst : ' ' ∉ '@' :: tag := by simpa using htag.space_notMem
      rw [writeTags_cons, splitTags_append_writeMore hfirst fun t ht => (hrest t ht).space_notMem,
        List.map_cons, htag.tagName_cons, List.map_congr_left fun t ht => (hrest t ht).tagName_eq,
        List.map_id']
  rw [parseTags, hnames, List.filter_eq_self.mpr]
  intro t ht
  simpa using (h t ht).ne_nil

end FeatureDoc.Line
