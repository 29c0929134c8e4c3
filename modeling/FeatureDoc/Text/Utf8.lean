/-
# UTF-8

A text is kept as bytes, up to four for each character. Other bytes stand for no text, but the
characters among them can still be told from what is between them.

* `decode_encode` : the bytes of a text stand for its characters;
* `decode_eq_map_some_iff` : and no other bytes stand for these alone.
-/
import FeatureDoc.Text.Basic

namespace FeatureDoc.Utf8

/-- The bytes of a text. -/
def encode (t : Text) : List UInt8 := t.flatMap String.utf8EncodeChar

/-- The ranges of the bytes that go on with a character, if it has more bytes than its first. The
second byte keeps out longer forms of what has a shorter one, and what is no character. -/
def following (first : UInt8) : List (UInt8 × UInt8) :=
  if first < 0xC2 then []
  else if first < 0xE0 then [(0x80, 0xBF)]
  else if first = 0xE0 then [(0xA0, 0xBF), (0x80, 0xBF)]
  else if first = 0xED then [(0x80, 0x9F), (0x80, 0xBF)]
  else if first < 0xF0 then [(0x80, 0xBF), (0x80, 0xBF)]
  else if first = 0xF0 then [(0x90, 0xBF), (0x80, 0xBF), (0x80, 0xBF)]
  else if first < 0xF4 then [(0x80, 0xBF), (0x80, 0xBF), (0x80, 0xBF)]
  else if first = 0xF4 then [(0x80, 0x8F), (0x80, 0xBF), (0x80, 0xBF)]
  else []

/-- How many bytes are in the given ranges, up to the first one that is not. -/
def countWithin : List (UInt8 × UInt8) → List UInt8 → Nat
  | (low, high) :: ranges, b :: rest =>
    if low ≤ b ∧ b ≤ high then countWithin ranges rest + 1 else 0
  | _, _ => 0

/-- The character that begins with a byte, if there is one, and the number of bytes behind the
first that belong to it. Without a character these are the bytes that could go on with one. -/
def first (b : UInt8) (rest : List UInt8) : Option Char × Nat :=
  match ByteArray.utf8DecodeChar? (b :: rest.take 3).toByteArray 0 with
  | some c => (some c, c.utf8Size - 1)
  | none => (none, countWithin (following b) rest)

/-- The characters among bytes, and the places where there is none, after leaving out some
bytes. -/
def decodeFrom : Nat → List UInt8 → List (Option Char)
  | _, [] => []
  | left + 1, _ :: rest => decodeFrom left rest
  | 0, b :: rest => (first b rest).1 :: decodeFrom (first b rest).2 rest

/-- The characters among bytes, and the places where there is none. -/
def decode (bytes : List UInt8) : List (Option Char) := decodeFrom 0 bytes

/-- Leaving out as many bytes as there are before others leaves these. -/
theorem decodeFrom_length_append (front rest : List UInt8) :
    decodeFrom front.length (front ++ rest) = decode rest := by
  induction front with
  | nil => rfl
  | cons b front ih => exact ih

/-- The bytes of a character stand for it, whatever follows them. -/
theorem decode_utf8EncodeChar_append (c : Char) (rest : List UInt8) :
    decode (String.utf8EncodeChar c ++ rest) = some c :: decode rest := by
  have hlength := String.length_utf8EncodeChar c
  have hpos := c.utf8Size_pos
  cases hbytes : String.utf8EncodeChar c with
  | nil =>
    rw [hbytes, List.length_nil] at hlength
    omega
  | cons b more =>
    rw [hbytes, List.length_cons] at hlength
    have hmore : more.length ≤ 3 := by
      have := c.utf8Size_le_four
      omega
    have htake : (more ++ rest).take 3 = more ++ rest.take (3 - more.length) := by
      rw [List.take_append, List.take_of_length_le hmore]
    have hread : ByteArray.utf8DecodeChar? (b :: (more ++ rest).take 3).toByteArray 0 = some c := by
      rw [htake, ← List.cons_append, ← hbytes, List.toByteArray_append]
      exact ByteArray.utf8DecodeChar?_utf8EncodeChar_append
    have hfirst : first b (more ++ rest) = (some c, more.length) := by
      rw [first, hread]
      exact congrArg (some c, ·) (by omega)
    change (first b (more ++ rest)).1 :: decodeFrom (first b (more ++ rest)).2 (more ++ rest) = _
    rw [hfirst, decodeFrom_length_append]

/-- The bytes of a text stand for its characters. -/
theorem decode_encode (t : Text) : decode (encode t) = t.map some := by
  induction t with
  | nil => rfl
  | cons c t ih =>
    rw [encode, List.flatMap_cons, decode_utf8EncodeChar_append, ← encode, ih, List.map_cons]

/-- A character is read where its bytes stand. -/
theorem exists_eq_append_of_decode {bytes : List UInt8} {c : Char} {others : List (Option Char)}
    (h : decode bytes = some c :: others) :
    ∃ rest, bytes = String.utf8EncodeChar c ++ rest ∧ decode rest = others := by
  cases bytes with
  | nil => cases h
  | cons b rest =>
    have hread : ByteArray.utf8DecodeChar? (b :: rest.take 3).toByteArray 0 = some c := by
      have hfirst : (first b rest).1 = some c := (List.cons.inj h).1
      rw [first] at hfirst
      split at hfirst
      · rename_i found hfound
        obtain rfl : found = c := Option.some.inj hfirst
        exact hfound
      · cases hfirst
    have hbytes := congrArg (fun bytes => bytes.data.toList)
      (ByteArray.eq_of_utf8DecodeChar?_eq_some hread)
    simp only [ByteArray.data_append, List.data_toByteArray, Array.toList_append,
      List.toList_toArray] at hbytes
    have hbegins : String.utf8EncodeChar c <+: b :: rest :=
      (hbytes ▸ List.prefix_append _ _ : String.utf8EncodeChar c <+: b :: rest.take 3).trans
        (List.cons_prefix_cons.mpr ⟨rfl, List.take_prefix 3 rest⟩)
    obtain ⟨more, hmore⟩ := hbegins
    refine ⟨more, hmore.symm, ?_⟩
    rw [← hmore, decode_utf8EncodeChar_append] at h
    exact (List.cons.inj h).2

/-- Bytes without a place between the characters are those of a text. -/
theorem decode_eq_map_some_iff {bytes : List UInt8} {t : Text} :
    decode bytes = t.map some ↔ bytes = encode t := by
  refine ⟨fun h => ?_, fun h => h ▸ decode_encode t⟩
  induction t generalizing bytes with
  | nil =>
    cases bytes with
    | nil => rfl
    | cons b bytes => cases h
  | cons c t ih =>
    obtain ⟨rest, rfl, hrest⟩ := exists_eq_append_of_decode h
    rw [ih hrest]
    rfl

/-- An incomplete character is one place without a character, and so is a byte that begins
none. -/
example : decode [0xE2, 0x82, 0x41, 0xFF] = [none, some 'A', none] := by rfl

end FeatureDoc.Utf8
