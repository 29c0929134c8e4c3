/-
# Patterns that are written and read again

Reading a pattern inverts writing it: braces and backslashes are doubled when a literal is written,
and one of the two is taken away again when it is read. A text that is no pattern has a brace at
which reading ends, and all that stands before this brace can be read.

* `IsProper` : the pieces that have a written form;
* `piecesFrom_write` : reading pieces that are written, behind a literal that is still open;
* `endsAt_of_piecesFrom` : where reading ends, and what can be read before;
* `pieces_exact` : both together, for whole patterns.
-/
import FeatureDoc.Pattern.Piece
import FeatureDoc.Proofs.Success
import Mathlib.Data.List.Chain

namespace FeatureDoc.Pattern

open Text

/-! ## Pieces that have a written form -/

/-- Whether a piece is a literal. -/
def Piece.isLiteral : Piece → Bool
  | literal _ => true
  | placeholder _ _ => false

/-- A literal that is not empty, or a placeholder with a proper name and a hint that does not close
it. -/
def Piece.IsProper : Piece → Prop
  | literal t => t ≠ []
  | placeholder name hint => isName name = true ∧ ∀ h ∈ hint, '}' ∉ h

/-- Pieces that have a written form: each of them is proper, and no two literals are adjacent. -/
structure IsProper (ps : List Piece) : Prop where
  proper : ∀ p ∈ ps, p.IsProper
  apart : ps.IsChain fun p q => ¬(p.isLiteral = true ∧ q.isLiteral = true)

/-- What a placeholder with a name and a hint has between its braces. -/
def bodyOf (name : Text) : Option Text → Text
  | none => name
  | some hint => name ++ ':' :: hint

/-- A placeholder is written as its body between braces. -/
theorem write_placeholder (name : Text) (hint : Option Text) :
    (Piece.placeholder name hint).write = '{' :: (bodyOf name hint ++ ['}']) := by
  cases hint with
  | none => rfl
  | some hint =>
    show '{' :: name ++ ':' :: hint ++ ['}'] = '{' :: (name ++ ':' :: hint ++ ['}'])
    simp

/-- A name has only word characters, and at least one. -/
theorem forall_isWord_of_isName {name : Text} (h : isName name = true) :
    name ≠ [] ∧ ∀ c ∈ name, isWord c = true := by
  cases name with
  | nil => cases h
  | cons c rest =>
    rw [isName, Bool.and_eq_true, List.all_eq_true] at h
    refine ⟨List.cons_ne_nil c rest, List.forall_mem_cons.mpr ⟨?_, h.2⟩⟩
    rw [isWord, Bool.or_right_comm, h.1, Bool.true_or]

/-- A character that stands in no word stands in no name. -/
theorem notMem_of_isName {name : Text} (h : isName name = true) {c : Char}
    (hc : isWord c = false) : c ∉ name := by
  intro hmem
  rw [(forall_isWord_of_isName h).2 c hmem] at hc
  cases hc

/-- The name and the hint are read back from the body of a placeholder. -/
theorem splitBody_bodyOf {name : Text} (h : isName name = true) (hint : Option Text) :
    splitBody (bodyOf name hint) = (name, hint) := by
  have hcolon : ':' ∉ name := notMem_of_isName h rfl
  cases hint with
  | none => rw [bodyOf, splitBody, cutAt?_eq_none_iff.mpr hcolon]
  | some hint => rw [bodyOf, splitBody, cutAt?_eq_some_iff.mpr ⟨rfl, hcolon⟩]

/-- A placeholder is not closed within its body. -/
theorem notMem_bodyOf {name : Text} (h : isName name = true) {hint : Option Text}
    (hhint : ∀ u ∈ hint, '}' ∉ u) : '}' ∉ bodyOf name hint := by
  have hclose : '}' ∉ name := notMem_of_isName h rfl
  cases hint with
  | none => exact hclose
  | some hint => simp [bodyOf, hclose, hhint hint rfl]

/-- The body of a placeholder does not begin with a brace, which would double the one before it. -/
theorem head?_bodyOf {name : Text} (h : isName name = true) (hint : Option Text) (rest : Text) :
    (bodyOf name hint ++ rest).head? ≠ some '{' := by
  have hopen : '{' ∉ name := notMem_of_isName h rfl
  cases name with
  | nil => cases h
  | cons c name =>
    have hc : c ≠ '{' := fun heq => hopen (heq ▸ List.mem_cons_self)
    cases hint <;> simp [bodyOf, hc]

/-! ## One character, or one placeholder -/

variable {position : Nat} {literal rest : Text}

/-- Characters that have been taken already are passed over. -/
theorem piecesFrom_taken (taken : Text) :
    piecesFrom taken.length position literal (taken ++ rest) =
      piecesFrom 0 (position + byteSize taken) literal rest := by
  induction taken generalizing position with
  | nil => rfl
  | cons c taken ih =>
    rw [List.length_cons, List.cons_append, piecesFrom, ih, byteSize, Nat.add_assoc]

/-- A backslash makes the next character literal. -/
theorem piecesFrom_backslash (d : Char) :
    piecesFrom 0 position literal ('\\' :: d :: rest) =
      piecesFrom 1 (position + '\\'.utf8Size) (d :: literal) (d :: rest) := by
  rw [piecesFrom.eq_def]
  rfl

/-- A doubled brace is one literal brace. -/
theorem piecesFrom_doubled {c : Char} (hc : c = '{' ∨ c = '}') :
    piecesFrom 0 position literal (c :: c :: rest) =
      piecesFrom 1 (position + c.utf8Size) (c :: literal) (c :: rest) := by
  have hne : c ≠ '\\' := by rcases hc with rfl | rfl <;> decide
  rw [piecesFrom.eq_def]
  dsimp only
  rw [if_neg hne, if_pos ⟨hc, rfl⟩]

/-- Any other character that is no brace is literal. -/
theorem piecesFrom_plain {c : Char} (hslash : c ≠ '\\') (hc : ¬(c = '{' ∨ c = '}')) :
    piecesFrom 0 position literal (c :: rest) =
      piecesFrom 0 (position + c.utf8Size) (c :: literal) rest := by
  rw [piecesFrom.eq_def]
  dsimp only
  rw [if_neg hslash, if_neg fun h => hc h.1, if_neg fun h => hc (Or.inl h),
    if_neg fun h => hc (Or.inr h)]

/-- A brace that is not doubled opens a placeholder, before which the literal ends. -/
theorem piecesFrom_open (hhead : rest.head? ≠ some '{') {piece : Piece} {body : Text}
    (hplace : placeholderAfter position rest = .ok (piece, body)) :
    piecesFrom 0 position literal ('{' :: rest) =
      (piecesFrom (body.length + 1) (position + '{'.utf8Size) [] rest).map fun more =>
        afterLiteral literal (piece :: more) := by
  rw [piecesFrom.eq_def]
  dsimp only
  rw [if_neg (by decide), if_neg fun h => hhead h.2, if_pos rfl, hplace]

/-- A placeholder that cannot be read ends the reading. -/
theorem piecesFrom_open_error (hhead : rest.head? ≠ some '{') {e : Error}
    (hplace : placeholderAfter position rest = .error e) :
    piecesFrom 0 position literal ('{' :: rest) = .error e := by
  rw [piecesFrom.eq_def]
  dsimp only
  rw [if_neg (by decide), if_neg fun h => hhead h.2, if_pos rfl, hplace]

/-- A closing brace that is not doubled closes nothing. -/
theorem piecesFrom_close (hhead : rest.head? ≠ some '}') :
    piecesFrom 0 position literal ('}' :: rest) = .error (.strayBrace position) := by
  rw [piecesFrom.eq_def]
  dsimp only
  rw [if_neg (by decide), if_neg fun h => hhead h.2, if_neg (by decide), if_pos rfl]

/-- A placeholder is read from its body, which ends at the first closing brace. -/
theorem placeholderAfter_eq_ok_iff {t body : Text} {piece : Piece} :
    placeholderAfter position t = .ok (piece, body) ↔
      ∃ rest, t = body ++ '}' :: rest ∧ '}' ∉ body ∧ isName (splitBody body).1 = true ∧
        piece = .placeholder (splitBody body).1 (splitBody body).2 := by
  rw [placeholderAfter]
  cases hcut : cutAt? '}' t with
  | none =>
    refine iff_of_false (fun h => nomatch h) ?_
    rintro ⟨rest, rfl, -⟩
    exact cutAt?_eq_none_iff.mp hcut (by simp)
  | some cut =>
    obtain ⟨body', rest'⟩ := cut
    obtain ⟨rfl, hbody'⟩ := cutAt?_eq_some_iff.mp hcut
    have huniq {rest : Text} (heq : body' ++ '}' :: rest' = body ++ '}' :: rest)
        (hbody : '}' ∉ body) : body' = body := by
      rw [heq, cutAt?_eq_some_iff.mpr ⟨rfl, hbody⟩] at hcut
      exact (Prod.mk.inj (Option.some.inj hcut)).1.symm
    constructor
    · intro h
      simp only at h
      split at h
      · rename_i hname
        obtain ⟨rfl, rfl⟩ := Prod.mk.inj (Except.ok.inj h)
        exact ⟨rest', rfl, hbody', hname, rfl⟩
      · cases h
    · rintro ⟨rest, heq, hbody, hname, rfl⟩
      obtain rfl := huniq heq hbody
      simp only [hname, if_true]

/-! ## Reading what is written -/

/-- A character that is written is read back behind the literal that is open. -/
theorem piecesFrom_writeChar (c : Char) :
    piecesFrom 0 position literal (writeChar c ++ rest) =
      piecesFrom 0 (position + byteSize (writeChar c)) (c :: literal) rest := by
  rw [writeChar]
  split
  · rename_i hspecial
    show piecesFrom 0 position literal (c :: c :: rest) = _
    have hdoubled : piecesFrom 0 position literal (c :: c :: rest) =
        piecesFrom 1 (position + c.utf8Size) (c :: literal) ([c] ++ rest) := by
      by_cases hslash : c = '\\'
      · rw [hslash]
        exact piecesFrom_backslash '\\'
      · apply piecesFrom_doubled
        rcases hspecial with h | h | h
        · exact Or.inl h
        · exact Or.inr h
        · exact absurd h hslash
    rw [hdoubled]
    refine (piecesFrom_taken [c]).trans ?_
    rw [Nat.add_assoc]
    rfl
  · rename_i hplain
    exact piecesFrom_plain (fun h => hplain (Or.inr (Or.inr h)))
      fun h => hplain (h.imp_right Or.inl)

/-- A literal that is written is read back behind the literal that is open. -/
theorem piecesFrom_literal (l : Text) :
    piecesFrom 0 position literal (l.flatMap writeChar ++ rest) =
      piecesFrom 0 (position + byteSize (l.flatMap writeChar)) (l.reverse ++ literal) rest := by
  induction l generalizing position literal with
  | nil => rfl
  | cons c l ih =>
    rw [List.flatMap_cons, List.append_assoc, piecesFrom_writeChar, ih, byteSize_append,
      Nat.add_assoc, List.reverse_cons, List.append_assoc]
    rfl

/-- A placeholder that is written is read back, and ends the literal that is open. -/
theorem piecesFrom_placeholder {name : Text} {hint : Option Text} (hname : isName name = true)
    (hhint : ∀ u ∈ hint, '}' ∉ u) :
    ∃ next, piecesFrom 0 position literal ((Piece.placeholder name hint).write ++ rest) =
      (piecesFrom 0 next [] rest).map fun more =>
        afterLiteral literal (.placeholder name hint :: more) := by
  have hread : placeholderAfter position (bodyOf name hint ++ '}' :: rest) =
      .ok (.placeholder name hint, bodyOf name hint) := by
    refine placeholderAfter_eq_ok_iff.mpr ⟨rest, rfl, notMem_bodyOf hname hhint, ?_⟩
    rw [splitBody_bodyOf hname]
    exact ⟨hname, rfl⟩
  have htaken := @piecesFrom_taken (position + '{'.utf8Size) [] rest (bodyOf name hint ++ ['}'])
  rw [List.append_assoc, List.length_append] at htaken
  refine ⟨position + '{'.utf8Size + byteSize (bodyOf name hint ++ ['}']), ?_⟩
  rw [write_placeholder, List.cons_append, List.append_assoc]
  show piecesFrom 0 position literal ('{' :: (bodyOf name hint ++ '}' :: rest)) = _
  rw [piecesFrom_open (head?_bodyOf hname hint _) hread]
  exact congrArg _ htaken

/-- Pieces that are written are read back behind a literal that is open, if the first of them is no
literal. -/
theorem piecesFrom_write {ps : List Piece} (h : IsProper ps)
    (hfirst : literal ≠ [] → ∀ p ∈ ps.head?, p.isLiteral = false) :
    piecesFrom 0 position literal (write ps) = .ok (afterLiteral literal ps) := by
  induction ps generalizing position literal with
  | nil => rfl
  | cons p ps ih =>
    obtain ⟨hp, hps⟩ := List.forall_mem_cons.mp h.proper
    obtain ⟨happart, hchain⟩ := List.isChain_cons.mp h.apart
    rw [write, List.flatMap_cons]
    cases p with
    | literal l =>
      have hempty : literal = [] := by
        by_contra hopen
        exact absurd (hfirst hopen _ rfl) (by simp [Piece.isLiteral])
      show piecesFrom 0 position literal (l.flatMap writeChar ++ write ps) = _
      rw [piecesFrom_literal, ih ⟨hps, hchain⟩, hempty]
      · have hl : l ≠ [] := hp
        simp [afterLiteral, hl]
      · intro _ q hq
        have hnot := happart q hq
        simpa [Piece.isLiteral] using hnot
    | placeholder name hint =>
      obtain ⟨next, hnext⟩ := @piecesFrom_placeholder position literal (write ps) name hint hp.1 hp.2
      refine hnext.trans ?_
      rw [ih ⟨hps, hchain⟩ fun hopen => absurd rfl hopen]
      rfl

/-! ## Where reading ends -/

/-- An error is about the brace at its position: about an opening brace that nothing closes, about
one whose placeholder has no proper name, or about a closing brace. -/
inductive Error.PointsTo (position : Nat) : Char → Text → Error → Prop
  | unclosed {after : Text} (hclose : '}' ∉ after) :
      PointsTo position '{' after (.unclosed position)
  | invalidName {body after : Text} (hbody : '}' ∉ body)
      (hname : isName (splitBody body).1 = false) :
      PointsTo position '{' (body ++ '}' :: after) (.invalidName (splitBody body).1 position)
  | strayBrace {after : Text} : PointsTo position '}' after (.strayBrace position)

/-- An opening brace is unclosed exactly if no closing brace follows. -/
theorem Error.PointsTo.eq_unclosed_iff {e : Error} {c : Char} {after : Text}
    (h : e.PointsTo position c after) : e = .unclosed position ↔ c = '{' ∧ '}' ∉ after := by
  cases h with
  | unclosed hclose => exact iff_of_true rfl ⟨rfl, hclose⟩
  | invalidName => simp
  | strayBrace => simp

/-- A placeholder that cannot be read is not closed, or has no proper name. -/
theorem pointsTo_of_placeholderAfter {t : Text} {e : Error}
    (h : placeholderAfter position t = .error e) : e.PointsTo position '{' t := by
  rw [placeholderAfter] at h
  cases hcut : cutAt? '}' t with
  | none =>
    simp only [hcut] at h
    obtain rfl := Except.error.inj h
    exact .unclosed (cutAt?_eq_none_iff.mp hcut)
  | some cut =>
    obtain ⟨body, after⟩ := cut
    obtain ⟨rfl, hbody⟩ := cutAt?_eq_some_iff.mp hcut
    simp only [hcut] at h
    split at h
    · cases h
    · rename_i hname
      obtain rfl := Except.error.inj h
      exact .invalidName hbody (Bool.eq_false_iff.mpr hname)

/-- A beginning of a text that reaches beyond a placeholder has the same placeholder. -/
theorem placeholderAfter_of_append {before after body : Text} {piece : Piece}
    (h : placeholderAfter position (before ++ after) = .ok (piece, body))
    (hlength : body.length + 1 ≤ before.length) :
    placeholderAfter position before = .ok (piece, body) := by
  obtain ⟨rest, heq, hbody, hpiece⟩ := placeholderAfter_eq_ok_iff.mp h
  have hbegins : body ++ ['}'] <+: before ++ after := ⟨rest, by rw [heq, List.append_assoc]; rfl⟩
  obtain ⟨rest', rfl⟩ : body ++ ['}'] <+: before :=
    List.prefix_of_prefix_length_le hbegins (List.prefix_append before after) (by simpa using hlength)
  exact placeholderAfter_eq_ok_iff.mpr ⟨rest', by simp, hbody, hpiece⟩

/-- Reading ends with an error at a brace behind the characters that have been taken already. The
error is about this brace, and all that stands before it can be read. -/
def EndsAt (taken position : Nat) (literal t : Text) (e : Error) : Prop :=
  ∃ before c after, t = before ++ c :: after ∧ taken ≤ before.length ∧
    e.PointsTo (position + byteSize before) c after ∧
    ∃ qs, piecesFrom taken position literal before = .ok qs

namespace EndsAt

variable {c d : Char} {taken : Nat} {e : Error}

/-- Reading ends at the first character. -/
theorem here (h : e.PointsTo position c rest) : EndsAt 0 position literal (c :: rest) e :=
  ⟨[], c, rest, rfl, Nat.le_refl 0, h, _, rfl⟩

/-- Reading ends behind a first character, if all beginnings that can be read behind this character
can be read together with it. -/
theorem behind {taken' : Nat} {literal' : Text}
    (h : EndsAt taken' (position + c.utf8Size) literal' rest e) (htaken : taken ≤ taken' + 1)
    (hread : ∀ before after, rest = before ++ after → taken' ≤ before.length →
      (∃ qs, piecesFrom taken' (position + c.utf8Size) literal' before = .ok qs) →
      ∃ qs, piecesFrom taken position literal (c :: before) = .ok qs) :
    EndsAt taken position literal (c :: rest) e := by
  obtain ⟨before, d, after, heq, hlength, hpoints, hqs⟩ := h
  refine ⟨c :: before, d, after, by rw [heq]; rfl, ?_, ?_, hread before _ heq hlength hqs⟩
  · rw [List.length_cons]
    omega
  · rwa [byteSize, ← Nat.add_assoc]

/-- Reading ends behind a character that has been taken already. -/
theorem taken_cons (h : EndsAt taken (position + c.utf8Size) literal rest e) :
    EndsAt (taken + 1) position literal (c :: rest) e := by
  apply h.behind (Nat.le_refl _)
  intro before _ _ _ hqs
  rwa [piecesFrom]

/-- Reading ends behind a backslash and the character that it makes literal. -/
theorem backslash (h : EndsAt 1 (position + '\\'.utf8Size) (d :: literal) (d :: rest) e) :
    EndsAt 0 position literal ('\\' :: d :: rest) e := by
  apply h.behind (Nat.zero_le _)
  intro before after heq hlength hqs
  cases before with
  | nil => cases hlength
  | cons d' before =>
    obtain ⟨rfl, -⟩ := List.cons.inj heq
    rwa [piecesFrom_backslash]

/-- Reading ends behind a doubled brace. -/
theorem doubled (hc : c = '{' ∨ c = '}')
    (h : EndsAt 1 (position + c.utf8Size) (c :: literal) (c :: rest) e) :
    EndsAt 0 position literal (c :: c :: rest) e := by
  apply h.behind (Nat.zero_le _)
  intro before after heq hlength hqs
  cases before with
  | nil => cases hlength
  | cons d before =>
    obtain ⟨rfl, -⟩ := List.cons.inj heq
    rwa [piecesFrom_doubled hc]

/-- Reading ends behind a character that is literal. -/
theorem plain (hslash : c ≠ '\\') (hc : ¬(c = '{' ∨ c = '}'))
    (h : EndsAt 0 (position + c.utf8Size) (c :: literal) rest e) :
    EndsAt 0 position literal (c :: rest) e := by
  apply h.behind (Nat.zero_le _)
  intro before _ _ _ hqs
  rwa [piecesFrom_plain hslash hc]

/-- Reading ends behind a placeholder. -/
theorem opened {piece : Piece} {body : Text} (hhead : rest.head? ≠ some '{')
    (hplace : placeholderAfter position rest = .ok (piece, body))
    (h : EndsAt (body.length + 1) (position + '{'.utf8Size) [] rest e) :
    EndsAt 0 position literal ('{' :: rest) e := by
  apply h.behind (Nat.zero_le _)
  rintro before after rfl hlength ⟨qs, hqs⟩
  have hhead' : before.head? ≠ some '{' := by
    cases before with
    | nil => cases hlength
    | cons d before => exact hhead
  rw [piecesFrom_open hhead' (placeholderAfter_of_append hplace hlength), hqs]
  exact ⟨_, rfl⟩

end EndsAt

/-- Where reading ends with an error, the error is about a brace, and all that stands before this
brace can be read. -/
theorem endsAt_of_piecesFrom {taken : Nat} {t : Text} {e : Error}
    (h : piecesFrom taken position literal t = .error e) : EndsAt taken position literal t e := by
  induction t generalizing taken position literal with
  | nil =>
    rw [piecesFrom] at h
    cases h
  | cons c rest ih =>
    cases taken with
    | succ taken =>
      rw [piecesFrom] at h
      exact (ih h).taken_cons
    | zero =>
      by_cases hslash : c = '\\'
      · subst hslash
        cases rest with
        | nil => cases h
        | cons d rest =>
          rw [piecesFrom_backslash] at h
          exact (ih h).backslash
      by_cases hbrace : c = '{' ∨ c = '}'
      case neg =>
        rw [piecesFrom_plain hslash hbrace] at h
        exact (ih h).plain hslash hbrace
      by_cases hhead : rest.head? = some c
      · obtain ⟨rest, rfl⟩ := List.head?_eq_some_iff.mp hhead
        rw [piecesFrom_doubled hbrace] at h
        exact (ih h).doubled hbrace
      rcases hbrace with rfl | rfl
      · cases hplace : placeholderAfter position rest with
        | error e' =>
          rw [piecesFrom_open_error hhead hplace] at h
          obtain rfl := Except.error.inj h
          exact .here (pointsTo_of_placeholderAfter hplace)
        | ok read =>
          obtain ⟨piece, body⟩ := read
          rw [piecesFrom_open hhead hplace] at h
          exact (ih (eq_error_of_map_eq_error h)).opened hhead hplace
      · rw [piecesFrom_close hhead] at h
        obtain rfl := Except.error.inj h
        exact .here .strayBrace

/-- Reading inverts writing: pieces that have a written form are read back from it. And where a text
cannot be read, the error gives the place of a brace in bytes: of an opening one, which is unclosed
exactly if no closing one follows, or of a closing one. What stands before this brace can be read. -/
theorem pieces_exact :
    (∀ ps, IsProper ps → pieces (write ps) = .ok ps) ∧
    ∀ t e, pieces t = .error e → ∃ before c after, t = before ++ c :: after ∧
      e.PointsTo (byteSize before) c after ∧
      (e = .unclosed (byteSize before) ↔ c = '{' ∧ '}' ∉ after) ∧
      ∃ qs, pieces before = .ok qs := by
  constructor
  · intro ps h
    exact piecesFrom_write h fun hopen => absurd rfl hopen
  · intro t e h
    obtain ⟨before, c, after, heq, -, hpoints, hqs⟩ := endsAt_of_piecesFrom h
    rw [Nat.zero_add] at hpoints
    exact ⟨before, c, after, heq, hpoints, hpoints.eq_unclosed_iff, hqs⟩

/-- Braces next to placeholders, and a hint with an opening brace. -/
example : pieces (write [.literal ['{'], .placeholder ['n'] (some ['{', ':']), .literal ['}', '\\']]) =
    .ok [.literal ['{'], .placeholder ['n'] (some ['{', ':']), .literal ['}', '\\']] := rfl

end FeatureDoc.Pattern
