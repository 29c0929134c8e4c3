/-
# Forms of texts

A form is a regular expression whose choices are tried in a fixed order. A reading of a form says
how each of its choices is made, and so determines the text that is read. Of two readings one comes
before the other by the first choice in which they differ: of alternatives the first one, of
repetitions the longest one, or the shortest one if they are reluctant.

* `Form.Reading`, `Form.text`, `Form.Fits` : what is read, and when it is read rightly;
* `Form.Before` : the order in which readings are tried;
* `Form.mem_readings`, `Form.pairwise_readings` : all readings of the beginnings of a text, in the
  order in which they are tried;
* `Shape.form`, `Shape.splits_eq` : a shape splits a text as the readings of its form say.
-/
import FeatureDoc.Pattern.Shape

namespace FeatureDoc.Pattern

/-- A form of texts, whose choices are tried in a fixed order. -/
inductive Form where
  /-- Nothing but a text. -/
  | exact (l : Text)
  /-- One character of a class. -/
  | one (p : Char → Bool)
  /-- At least one character of a class, as many as possible. -/
  | greedy (p : Char → Bool)
  /-- At least one character of a class, as few as possible. -/
  | reluctant (p : Char → Bool)
  /-- A form, or else the empty text. -/
  | optional (f : Form)
  /-- A form and then another one. -/
  | seq (f g : Form)
  /-- A form, or else another one. -/
  | either (f g : Form)

/-- At least one character, and all of a class. -/
def IsRun (p : Char → Bool) (t : Text) : Prop := t ≠ [] ∧ ∀ c ∈ t, p c = true

namespace Form

/-! ## Readings -/

/-- A reading of a form: how its choices are made. -/
@[reducible] def Reading : Form → Type
  | exact _ => Unit
  | one _ => Char
  | greedy _ => Text
  | reluctant _ => Text
  | optional f => Option f.Reading
  | seq f g => f.Reading × g.Reading
  | either f g => f.Reading ⊕ g.Reading

/-- The text that is read. -/
def text : (f : Form) → f.Reading → Text
  | exact l, _ => l
  | one _, c => [c]
  | greedy _, t => t
  | reluctant _, t => t
  | optional _, none => []
  | optional f, some a => f.text a
  | seq f g, (a, b) => f.text a ++ g.text b
  | either f _, .inl a => f.text a
  | either _ g, .inr b => g.text b

/-- The characters that are read are of the right classes, and repetitions are not empty. -/
def Fits : (f : Form) → f.Reading → Prop
  | exact _, _ => True
  | one p, c => p c = true
  | greedy p, t => IsRun p t
  | reluctant p, t => IsRun p t
  | optional _, none => True
  | optional f, some a => f.Fits a
  | seq f g, (a, b) => f.Fits a ∧ g.Fits b
  | either f _, .inl a => f.Fits a
  | either _ g, .inr b => g.Fits b

/-- A reading is tried before another one. -/
def Before : (f : Form) → f.Reading → f.Reading → Prop
  | exact _, _, _ => False
  | one _, _, _ => False
  | greedy _, t, u => List.length u < List.length t
  | reluctant _, t, u => List.length t < List.length u
  | optional f, some a, some b => f.Before a b
  | optional _, some _, none => True
  | optional _, none, _ => False
  | seq f g, a, b => Prod.Lex f.Before g.Before a b
  | either f g, a, b => Sum.Lex f.Before g.Before a b

/-- A text is of a form if it can be read so. -/
def Accepts (f : Form) (t : Text) : Prop := ∃ a, f.Fits a ∧ f.text a = t

/-- Of two readings at most one is tried before the other. -/
theorem before_asymm {f : Form} {a b : f.Reading} (h : f.Before a b) : ¬f.Before b a := by
  induction f with
  | exact l => exact h.elim
  | one p => exact h.elim
  | greedy p => exact Nat.lt_asymm h
  | reluctant p => exact Nat.lt_asymm h
  | optional f ih =>
    match a, b, h with
    | some _, some _, h => exact ih h
    | some _, none, _ => exact id
  | seq f g ihf ihg =>
    intro h'
    rcases Prod.lex_def.mp h with hfst | ⟨heq, hsnd⟩ <;>
      rcases Prod.lex_def.mp h' with hfst' | ⟨heq', hsnd'⟩
    · exact ihf hfst hfst'
    · exact ihf hfst (heq' ▸ hfst)
    · exact ihf hfst' (heq ▸ hfst')
    · exact ihg hsnd hsnd'
  | either f g ihf ihg =>
    intro h'
    cases h with
    | inl h => exact ihf h (Sum.lex_inl_inl.mp h')
    | inr h => exact ihg h (Sum.lex_inr_inr.mp h')
    | sep => exact Sum.lex_inr_inl h'

/-! ## Ways to split a text -/

/-- The ways in which a form can take up the beginning of a text. -/
def splits : Form → Splitter
  | exact l => fun t => ((Text.after? l t).map fun rest => (l, rest)).toList
  | one p => Splitter.one p
  | greedy p => Splitter.run p
  | reluctant p => Splitter.lazyRun p
  | optional f => Splitter.orNothing f.splits
  | seq f g => Splitter.andThen f.splits g.splits
  | either f g => Splitter.orElse f.splits g.splits

/-- The readings of the beginnings of a text, each with the rest of the text, in the order in which
they are tried. -/
def readings : (f : Form) → Text → List (f.Reading × Text)
  | exact l, t => ((Text.after? l t).map fun rest => ((), rest)).toList
  | one _, [] => []
  | one p, c :: rest => if p c then [(c, rest)] else []
  | greedy p, t => Splitter.run p t
  | reluctant p, t => Splitter.lazyRun p t
  | optional f, t => (f.readings t).map (fun (a, rest) => (some a, rest)) ++ [(none, t)]
  | seq f g, t =>
    (f.readings t).flatMap fun (a, rest) => (g.readings rest).map fun (b, rest) => ((a, b), rest)
  | either f g, t =>
    (f.readings t).map (fun (a, rest) => (.inl a, rest)) ++
      (g.readings t).map fun (b, rest) => (.inr b, rest)

/-- The ways to split a text are those in which it can be read. -/
theorem splits_eq_map (f : Form) (t : Text) :
    f.splits t = (f.readings t).map fun (a, rest) => (f.text a, rest) := by
  induction f generalizing t with
  | exact l => cases h : Text.after? l t <;> simp [splits, readings, text, h]
  | one p =>
    cases t with
    | nil => rfl
    | cons c rest => cases h : p c <;> simp [splits, readings, text, Splitter.one, h]
  | greedy p => exact (List.map_id' _).symm
  | reluctant p => exact (List.map_id' _).symm
  | optional f ih =>
    simp only [splits, readings, Splitter.orNothing, ih, List.map_append, List.map_map]
    rfl
  | seq f g ihf ihg =>
    simp only [splits, readings, Splitter.andThen, ihf, ihg, List.flatMap_map, List.map_flatMap,
      List.map_map]
    rfl
  | either f g ihf ihg =>
    simp only [splits, readings, Splitter.orElse, ihf, ihg, List.map_append, List.map_map]
    rfl

end Form

/-! ## All readings, in their order -/

/-- A run of one character and more is in a class if the character and the rest of it are. -/
theorem isRun_cons {p : Char → Bool} {c : Char} {t : Text} :
    IsRun p (c :: t) ↔ p c = true ∧ (t = [] ∨ IsRun p t) := by
  cases t <;> simp [IsRun]

/-- The runs that are taken lazily are those with which the text begins. -/
theorem Splitter.mem_lazyRun {p : Char → Bool} {t a rest : Text} :
    (a, rest) ∈ lazyRun p t ↔ IsRun p a ∧ t = a ++ rest := by
  induction t generalizing a with
  | nil =>
    simp only [lazyRun, List.not_mem_nil, false_iff]
    rintro ⟨⟨hne, -⟩, hnil⟩
    exact hne (List.append_eq_nil_iff.mp hnil.symm).1
  | cons c t ih =>
    have hmem : (a, rest) ∈ lazyRun p (c :: t) ↔
        p c = true ∧ (a = [c] ∧ rest = t ∨ ∃ b, (b, rest) ∈ lazyRun p t ∧ c :: b = a) := by
      by_cases hc : p c = true <;> simp [lazyRun, hc]
    rw [hmem]
    constructor
    · rintro ⟨hc, ⟨rfl, rfl⟩ | ⟨b, hb, rfl⟩⟩
      · exact ⟨isRun_cons.mpr ⟨hc, Or.inl rfl⟩, rfl⟩
      · obtain ⟨hrun, rfl⟩ := ih.mp hb
        exact ⟨isRun_cons.mpr ⟨hc, Or.inr hrun⟩, rfl⟩
    · rintro ⟨hrun, heq⟩
      obtain ⟨hnil, -⟩ | ⟨b, rfl, rfl⟩ := List.cons_eq_append_iff.mp heq
      · exact absurd hnil hrun.1
      · obtain ⟨hc, rfl | hrun⟩ := isRun_cons.mp hrun
        · exact ⟨hc, Or.inl ⟨rfl, rfl⟩⟩
        · exact ⟨hc, Or.inr ⟨b, ih.mpr ⟨hrun, rfl⟩, rfl⟩⟩

/-- Runs that are taken lazily get longer. -/
theorem Splitter.pairwise_lazyRun (p : Char → Bool) (t : Text) :
    (lazyRun p t).Pairwise fun a b => a.1.length < b.1.length := by
  induction t with
  | nil => exact List.Pairwise.nil
  | cons c t ih =>
    rw [lazyRun]
    split
    · refine List.pairwise_cons.mpr ⟨?_, List.pairwise_map.mpr (ih.imp Nat.succ_lt_succ)⟩
      rintro b hb
      obtain ⟨⟨a, rest⟩, ha, rfl⟩ := List.mem_map.mp hb
      exact Nat.succ_lt_succ (List.length_pos_iff.mpr (mem_lazyRun.mp ha).1.1)
    · exact List.Pairwise.nil

namespace Form

/-- The readings of the beginnings of a text are all that fit. -/
theorem mem_readings {f : Form} {t rest : Text} {a : f.Reading} :
    (a, rest) ∈ f.readings t ↔ f.Fits a ∧ t = f.text a ++ rest := by
  induction f generalizing t rest with
  | exact l => simp [readings, Fits, text, Text.after?_eq_some_iff]
  | one p =>
    cases t with
    | nil => simp [readings, text]
    | cons c t =>
      have hmem : (a, rest) ∈ (one p).readings (c :: t) ↔ p c = true ∧ a = c ∧ rest = t := by
        by_cases hc : p c = true <;> simp [readings, hc]
      rw [hmem, text, Fits, List.singleton_append, List.cons.injEq]
      constructor
      · rintro ⟨hc, rfl, rfl⟩
        exact ⟨hc, rfl, rfl⟩
      · rintro ⟨ha, rfl, rfl⟩
        exact ⟨ha, rfl, rfl⟩
  | greedy p => exact List.mem_reverse.trans Splitter.mem_lazyRun
  | reluctant p => exact Splitter.mem_lazyRun
  | optional f ih =>
    cases a with
    | none => simp [readings, Fits, text, eq_comm]
    | some a => simp [readings, Fits, text, ih]
  | seq f g ihf ihg =>
    obtain ⟨a, b⟩ := a
    have hmem : ((a, b), rest) ∈ (seq f g).readings t ↔
        ∃ mid, (a, mid) ∈ f.readings t ∧ (b, rest) ∈ g.readings mid := by
      simp only [readings, List.mem_flatMap, List.mem_map, Prod.mk.injEq, Prod.exists]
      constructor
      · rintro ⟨_, mid, ha, _, _, hb, ⟨rfl, rfl⟩, rfl⟩
        exact ⟨mid, ha, hb⟩
      · rintro ⟨mid, ha, hb⟩
        exact ⟨a, mid, ha, b, rest, hb, ⟨rfl, rfl⟩, rfl⟩
    simp only [hmem, ihf, ihg, Fits, text, List.append_assoc]
    constructor
    · rintro ⟨mid, ⟨ha, rfl⟩, hb, rfl⟩
      exact ⟨⟨ha, hb⟩, rfl⟩
    · rintro ⟨⟨ha, hb⟩, rfl⟩
      exact ⟨_, ⟨ha, rfl⟩, hb, rfl⟩
  | either f g ihf ihg =>
    cases a with
    | inl a => simp [readings, Fits, text, ihf]
    | inr b => simp [readings, Fits, text, ihg]

/-- The readings of the beginnings of a text are listed in the order in which they are tried. -/
theorem pairwise_readings (f : Form) (t : Text) :
    (f.readings t).Pairwise fun a b => f.Before a.1 b.1 := by
  induction f generalizing t with
  | exact l =>
    cases h : Text.after? l t <;> simp [readings, h]
  | one p =>
    cases t with
    | nil => exact List.Pairwise.nil
    | cons c t => by_cases hc : p c = true <;> simp [readings, hc]
  | greedy p => exact List.pairwise_reverse.mpr (Splitter.pairwise_lazyRun p t)
  | reluctant p => exact Splitter.pairwise_lazyRun p t
  | optional f ih =>
    refine List.pairwise_append.mpr ⟨List.pairwise_map.mpr (ih t), List.pairwise_singleton _ _, ?_⟩
    rintro x hx y hy
    obtain ⟨a, -, rfl⟩ := List.mem_map.mp hx
    obtain rfl := List.mem_singleton.mp hy
    exact trivial
  | seq f g ihf ihg =>
    refine List.pairwise_flatMap.mpr ⟨fun a ha => ?_, (ihf t).imp ?_⟩
    · exact List.pairwise_map.mpr ((ihg a.2).imp (Prod.Lex.right a.1))
    · rintro a b hab x hx y hy
      obtain ⟨x, -, rfl⟩ := List.mem_map.mp hx
      obtain ⟨y, -, rfl⟩ := List.mem_map.mp hy
      exact Prod.Lex.left _ _ hab
  | either f g ihf ihg =>
    refine List.pairwise_append.mpr ⟨List.pairwise_map.mpr ((ihf t).imp Sum.Lex.inl),
      List.pairwise_map.mpr ((ihg t).imp Sum.Lex.inr), ?_⟩
    rintro x hx y hy
    obtain ⟨a, -, rfl⟩ := List.mem_map.mp hx
    obtain ⟨b, -, rfl⟩ := List.mem_map.mp hy
    exact Sum.Lex.sep a.1 b.1

end Form

/-! ## The forms of the shapes -/

/-- The form of the words that are one word in small letters, in any case of ASCII. -/
def Form.wordAnyCase : Text → Form
  | [] => .exact []
  | c :: word => .seq (.one fun d => d.toLower = c) (wordAnyCase word)

/-- The form of at least one decimal digit. -/
def Form.digitRun : Form := .greedy Text.isDecimalDigit

/-- The form of an optional sign. -/
def Form.sign : Form := .optional (.one isSign)

/-- The form of the digits of a number, with a point after or before the first digits, or without
one. -/
def Form.mantissa : Form :=
  .either (.seq .digitRun (.seq (.one (· = '.')) (.optional .digitRun)))
    (.either (.seq (.one (· = '.')) .digitRun) .digitRun)

/-- The form of the exponent of a number. -/
def Form.exponent : Form := .seq (.one fun c => c = 'e' || c = 'E') (.seq .sign .digitRun)

/-- The form of a shape. -/
def Shape.form : Shape → Form
  | signedDigits => .seq .sign .digitRun
  | digits => .digitRun
  | number =>
    .either (.seq .sign (.seq .mantissa (.optional .exponent)))
      (.either (.wordAnyCase "nan") (.either (.wordAnyCase "inf") (.wordAnyCase "infinity")))
  | word => .greedy fun c => !Text.isBlank c
  | line => .reluctant (· ≠ '\n')

/-- A word in any case is split off as its form says. -/
theorem Form.splits_wordAnyCase (word : Text) :
    (wordAnyCase word).splits = Splitter.wordAnyCase word := by
  induction word with
  | nil => rfl
  | cons c word ih => exact congrArg _ ih

/-- A shape splits texts as its form does. -/
theorem Shape.splits_eq (s : Shape) : s.splits = s.form.splits := by
  cases s with
  | number =>
    simp only [splits, ← Form.splits_wordAnyCase]
    rfl
  | _ => rfl

end FeatureDoc.Pattern
