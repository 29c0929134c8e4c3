/-
# Parameter tokens

The text of a step may hold parameters: `<name>` is a general one, `<name:literal>` and
`<name.codes:literal>` are variants. A `<` after a backslash opens nothing. A text is cut into
segments, each a token or a single character, so that nothing of it is lost; tokens, their
places and the canonical form are read off the segments.

* `source_append_of_tokenAfter?` : a token that is found stands, as it is written, in the text;
* `flatMap_source_segments` : the segments of a text, as they are written, are the text.
-/
import FeatureDoc.Text.Word

namespace FeatureDoc.Param

/-- A parameter in the text of a step. -/
inductive Token where
  /-- A name between `<` and `>`. -/
  | general (name : Text)
  /-- A name with a literal, and conversion codes if a point follows the name. -/
  | variant (name : Text) (codes : Option Text) (literal : Text)
deriving DecidableEq, Repr

namespace Token

/-- The name of a parameter. -/
def name : Token → Text
  | general name => name
  | variant name _ _ => name

/-- A parameter as it is written. -/
def source : Token → Text
  | general name => '<' :: name ++ ['>']
  | variant name none literal => '<' :: name ++ ':' :: literal ++ ['>']
  | variant name (some codes) literal => '<' :: name ++ '.' :: codes ++ ':' :: literal ++ ['>']

/-- The general parameter of the same name, as it is written. -/
def canonical (t : Token) : Text := '<' :: t.name ++ ['>']

end Token

/-! ## Finding tokens -/

/-- The literal up to the first `>`, as the end of a variant. -/
def variantBefore? (name : Text) (codes : Option Text) (t : Text) : Option Token :=
  (Text.cutAt? '>' t).map fun (literal, _) => .variant name codes literal

/-- The token whose `<` stands right before a text. -/
def tokenAfter? (t : Text) : Option Token :=
  let name := t.takeWhile Text.isWord
  if name = [] then none
  else match t.dropWhile Text.isWord with
    | '>' :: _ => some (.general name)
    | ':' :: rest => variantBefore? name none rest
    | '.' :: rest =>
      match rest.dropWhile Text.isWord with
      | ':' :: literal => variantBefore? name (some (rest.takeWhile Text.isWord)) literal
      | _ => none
    | _ => none

/-- A piece of the text of a step. -/
inductive Segment where
  | plain (c : Char)
  | token (t : Token)
deriving DecidableEq, Repr

/-- The segments of a text. The first argument is the number of characters that still belong to
the last token, and the flag tells whether a backslash stands right before the text. -/
def segmentsFrom : Nat → Bool → Text → List Segment
  | _, _, [] => []
  | covered + 1, _, _ :: rest => segmentsFrom covered false rest
  | 0, escaped, c :: rest =>
    match if c = '<' ∧ ¬escaped then tokenAfter? rest else none with
    | some t => .token t :: segmentsFrom (t.source.length - 1) false rest
    | none => .plain c :: segmentsFrom 0 (c = '\\') rest

/-- The segments of a text. -/
def segments (t : Text) : List Segment := segmentsFrom 0 false t

namespace Segment

/-- A segment as it is written. -/
def source : Segment → Text
  | plain c => [c]
  | token t => t.source

/-- A segment in the canonical form of its text. -/
def canonical : Segment → Text
  | plain c => [c]
  | token t => t.canonical

/-- The token that a segment is. -/
def token? : Segment → Option Token
  | plain _ => none
  | token t => some t

end Segment

/-! ## Segments lose nothing -/

/-- A token begins with `<`. -/
theorem source_eq_cons (t : Token) : ∃ rest, t.source = '<' :: rest := by
  cases t with
  | general name => exact ⟨_, rfl⟩
  | variant name codes literal => cases codes <;> exact ⟨_, rfl⟩

/-- A variant that is found stands at the beginning of the text. -/
theorem eq_append_of_variantBefore? {name t : Text} {codes : Option Text} {tok : Token}
    (h : variantBefore? name codes t = some tok) :
    ∃ literal rest, tok = .variant name codes literal ∧ t = literal ++ '>' :: rest := by
  obtain ⟨⟨literal, rest⟩, cut, rfl⟩ := Option.map_eq_some_iff.mp h
  exact ⟨literal, rest, rfl, (Text.cutAt?_eq_some_iff.mp cut).1⟩

/-- A token that is found stands, as it is written, at the beginning of the text. -/
theorem source_append_of_tokenAfter? {t : Text} {tok : Token} (h : tokenAfter? t = some tok) :
    ∃ rest, '<' :: t = tok.source ++ rest := by
  have whole : t.takeWhile Text.isWord ++ t.dropWhile Text.isWord = t :=
    List.takeWhile_append_dropWhile
  unfold tokenAfter? at h
  simp only at h
  split at h
  · exact absurd h (by simp)
  · split at h
    · rename_i rest after
      obtain rfl := Option.some.inj h
      refine ⟨rest, ?_⟩
      conv => lhs; rw [← whole, after]
      simp [Token.source]
    · rename_i rest after
      obtain ⟨literal, rest, rfl, rfl⟩ := eq_append_of_variantBefore? h
      refine ⟨rest, ?_⟩
      conv => lhs; rw [← whole, after]
      simp [Token.source]
    · rename_i rest after
      split at h
      · rename_i literal next
        obtain ⟨text, rest', rfl, rfl⟩ := eq_append_of_variantBefore? h
        refine ⟨rest', ?_⟩
        have codes : rest.takeWhile Text.isWord ++ rest.dropWhile Text.isWord = rest :=
          List.takeWhile_append_dropWhile
        conv => lhs; rw [← whole, after, ← codes, next]
        simp [Token.source]
      · exact absurd h (by simp)
    · exact absurd h (by simp)

/-- The segments of a text, as they are written, are the text without the characters that an
earlier token covers. -/
theorem flatMap_source_segmentsFrom (covered : Nat) (escaped : Bool) (t : Text) :
    (segmentsFrom covered escaped t).flatMap Segment.source = t.drop covered := by
  induction t generalizing covered escaped with
  | nil => simp [segmentsFrom]
  | cons c t ih =>
    cases covered with
    | succ covered => simpa [segmentsFrom] using ih covered false
    | zero =>
      unfold segmentsFrom
      split
      · rename_i tok found
        split at found
        · rename_i opens
          obtain ⟨rest, whole⟩ := source_append_of_tokenAfter? found
          obtain ⟨body, written⟩ := source_eq_cons tok
          have after : t = body ++ rest := by
            rw [written] at whole
            exact (List.cons.inj whole).2
          rw [List.flatMap_cons, ih, opens.1, written, after]
          simp [Segment.source, written]
        · exact absurd found (by simp)
      · rw [List.flatMap_cons, ih]
        rfl

/-- The segments of a text lose nothing of it. -/
theorem flatMap_source_segments (t : Text) : (segments t).flatMap Segment.source = t :=
  flatMap_source_segmentsFrom 0 false t

/-! ## What is read off the segments -/

/-- The tokens of a text from left to right. -/
def tokens (t : Text) : List Token := (segments t).filterMap Segment.token?

/-- A token with the bytes of its text at which it begins and ends. -/
structure Located where
  token : Token
  start : Nat
  stop : Nat
deriving DecidableEq, Repr

/-- The tokens among the segments that follow the given number of bytes. -/
def locateFrom : Nat → List Segment → List Located
  | _, [] => []
  | start, .plain c :: rest => locateFrom (start + c.utf8Size) rest
  | start, .token t :: rest =>
    let stop := start + Text.byteSize t.source
    ⟨t, start, stop⟩ :: locateFrom stop rest

/-- The tokens of a text with their places. -/
def locate (t : Text) : List Located := locateFrom 0 (segments t)

/-- A text with every token in its canonical form. -/
def canonicalize (t : Text) : Text := (segments t).flatMap Segment.canonical

/-! ## General parameters -/

/-- The name of the general parameter whose `<` stands right before a text. -/
def generalAfter? (t : Text) : Option Text :=
  let name := t.takeWhile Text.isWord
  if name ≠ [] ∧ (t.dropWhile Text.isWord).head? = some '>' then some name else none

/-- The names of the general parameters of a text; the flag tells whether a backslash stands
right before it. -/
def generalsFrom : Bool → Text → List Text
  | _, [] => []
  | escaped, c :: rest =>
    let more := generalsFrom (c = '\\') rest
    match if c = '<' ∧ ¬escaped then generalAfter? rest else none with
    | some name => name :: more
    | none => more

/-- The names of the general parameters of a text from left to right, also of those that stand
in the literal of a variant. -/
def generals (t : Text) : List Text := generalsFrom false t

end FeatureDoc.Param
