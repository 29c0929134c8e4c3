/-
# Texts

A text is the list of its characters. This module holds the operations on texts that know
nothing of character classes: cutting into lines, given beginnings, sizes in bytes, and the
written form of whole numbers.

* `after?_eq_some_iff` and `cutAt?_eq_some_iff` : how a text is put together from its parts;
* `mem_sortedSet` and `pairwise_sortedSet` : sorting keeps the members, in increasing order.
-/
import FeatureDoc.Pieces
import FeatureDoc.Sorted

namespace FeatureDoc

/-- A text: the list of its characters. -/
abbrev Text := List Char

/-- A string literal may stand where a text is expected. -/
instance : Coe String Text := ⟨String.toList⟩

/-- The test for equal texts says what it should. -/
instance : LawfulBEq Text := inferInstanceAs (LawfulBEq (List Char))

namespace Text

/-! ## Lines -/

/-- The lines of a text. A line ends at a line feed, which may have a carriage return before it;
what follows the last line feed is a line unless it is empty. -/
def lines : Text → List Text
  | [] => []
  | '\n' :: rest => [] :: lines rest
  | '\r' :: '\n' :: rest => [] :: lines rest
  | c :: rest =>
    match lines rest with
    | [] => [[c]]
    | line :: more => (c :: line) :: more

/-- The lines put together again, with a line feed between two of them. -/
def unlines (ls : List Text) : Text := ['\n'].intercalate ls

/-- What is left of a text after a given beginning, if it begins so. -/
def after? : Text → Text → Option Text
  | [], rest => some rest
  | _ :: _, [] => none
  | p :: lead, c :: rest => if p = c then after? lead rest else none

/-- A text begins in the given way exactly when it is that beginning and the rest. -/
theorem after?_eq_some_iff {lead t rest : Text} :
    after? lead t = some rest ↔ t = lead ++ rest := by
  induction lead generalizing t with
  | nil => simp [after?, eq_comm]
  | cons p lead ih =>
    cases t with
    | nil => simp [after?]
    | cons c t =>
      by_cases h : p = c
      · simp [after?, h, ih]
      · simp [after?, h, Ne.symm h]

/-- The text with every character of a kind left out. -/
def without (c : Char) (t : Text) : Text := t.filter (· != c)

/-- Both ends of a text at the first occurrence of a character, which belongs to neither. -/
def cutAt? (mark : Char) : Text → Option (Text × Text)
  | [] => none
  | c :: rest =>
    if c = mark then some ([], rest)
    else (cutAt? mark rest).map fun (left, right) => (c :: left, right)

/-- A text is cut at the first occurrence of a character, which belongs to neither part. -/
theorem cutAt?_eq_some_iff {mark : Char} {t left right : Text} :
    cutAt? mark t = some (left, right) ↔ t = left ++ mark :: right ∧ mark ∉ left := by
  induction t generalizing left with
  | nil => simp [cutAt?]
  | cons c t ih =>
    unfold cutAt?
    split
    · rename_i same
      subst same
      cases left with
      | nil => simp [eq_comm]
      | cons d left =>
        constructor
        · intro found
          simp at found
        · rintro ⟨whole, notMem⟩
          obtain ⟨rfl, rfl⟩ : c = d ∧ t = left ++ c :: right := by simpa using whole
          exact absurd (List.mem_cons_self ..) notMem
    · rename_i different
      cases left with
      | nil => simp [different]
      | cons d left =>
        constructor
        · intro found
          obtain ⟨⟨l, r⟩, cut, eq⟩ := Option.map_eq_some_iff.mp found
          obtain ⟨⟨rfl, rfl⟩, rfl⟩ : (c = d ∧ l = left) ∧ r = right := by simpa using eq
          obtain ⟨rfl, notMem⟩ := ih.mp cut
          exact ⟨rfl, by simp [notMem, Ne.symm different]⟩
        · rintro ⟨whole, notMem⟩
          obtain ⟨rfl, rfl⟩ : c = d ∧ t = left ++ mark :: right := by simpa using whole
          have cut : cutAt? mark (left ++ mark :: right) = some (left, right) :=
            ih.mpr ⟨rfl, fun m => notMem (List.mem_cons_of_mem _ m)⟩
          rw [cut]
          rfl

/-- A text without a character cannot be cut at it. -/
theorem cutAt?_eq_none_iff {mark : Char} {t : Text} : cutAt? mark t = none ↔ mark ∉ t := by
  induction t with
  | nil => simp [cutAt?]
  | cons c t ih =>
    unfold cutAt?
    split
    · rename_i same
      simp [same]
    · rename_i different
      simp [ih, Ne.symm different]

/-! ## Sizes and case -/

/-- The number of bytes of a text in UTF-8. -/
def byteSize : Text → Nat
  | [] => 0
  | c :: rest => c.utf8Size + byteSize rest

/-- The bytes of two texts in a row are those of both. -/
@[simp] theorem byteSize_append (s t : Text) : byteSize (s ++ t) = byteSize s + byteSize t := by
  induction s with
  | nil => simp [byteSize]
  | cons c s ih => rw [List.cons_append, byteSize, byteSize, ih, Nat.add_assoc]

/-- The text with the capital letters of ASCII made small. -/
def lowerAscii (t : Text) : Text := t.map Char.toLower

/-! ## Numbers -/

/-- The decimal digits of a natural number. -/
def ofNat (n : Nat) : Text := Nat.toDigits 10 n

/-- The decimal digits of an integer, after a minus sign if it is negative. -/
def ofInt (n : Int) : Text :=
  if n < 0 then '-' :: ofNat n.natAbs else ofNat n.natAbs

/-! ## Order -/

/-- The texts of a list in increasing order of their code points, each once. -/
def sortedSet (ts : List Text) : List Text := ts.foldr Sorted.insert []

/-- Sorting keeps the members. -/
@[simp] theorem mem_sortedSet {u : Text} {ts : List Text} : u ∈ sortedSet ts ↔ u ∈ ts := by
  induction ts with
  | nil => simp [sortedSet]
  | cons t ts ih =>
    have step : sortedSet (t :: ts) = Sorted.insert t (sortedSet ts) := rfl
    rw [step, Sorted.mem_insert, ih, List.mem_cons]

/-- The texts of a sorted set increase. -/
theorem pairwise_sortedSet (ts : List Text) : (sortedSet ts).Pairwise (· < ·) := by
  induction ts with
  | nil => exact List.Pairwise.nil
  | cons t ts ih => exact Sorted.pairwise_insert t ih

end Text

end FeatureDoc
