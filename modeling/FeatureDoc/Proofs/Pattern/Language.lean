/-
# The languages of the shapes

What a placeholder can capture is said here without an order of choices: as a set of texts for each
shape. A text is in it exactly when it can be read in the form of the shape.

* `Shape.Accepts` : the texts of a shape;
* `Form.accepts_seq_iff` and others : the texts of a form, constructor by constructor;
* `Shape.accepts_form_iff` : the texts of the form of a shape are those of the shape.
-/
import FeatureDoc.Proofs.Pattern.Form

namespace FeatureDoc.Pattern

/-! ## The texts of the shapes -/

/-- At least one decimal digit, and nothing else. -/
def IsDigits (t : Text) : Prop := IsRun Text.isDecimalDigit t

/-- A sign or nothing. -/
def IsOptionalSign (t : Text) : Prop := t = [] ∨ t = ['+'] ∨ t = ['-']

/-- At least one decimal digit, with at most one point before, between or after the digits. -/
def IsMantissa (t : Text) : Prop :=
  IsDigits t ∨ ∃ whole fraction, t = whole ++ '.' :: fraction ∧ IsDigits (whole ++ fraction)

/-- A letter `e` and a number, which may have a sign. -/
def IsExponent (t : Text) : Prop :=
  ∃ e sign digits, t = e :: (sign ++ digits) ∧ (e = 'e' ∨ e = 'E') ∧ IsOptionalSign sign ∧
    IsDigits digits

/-- Digits with an optional sign. -/
def IsSignedDigits (t : Text) : Prop :=
  ∃ sign digits, t = sign ++ digits ∧ IsOptionalSign sign ∧ IsDigits digits

/-- Digits with an optional sign, an optional point and an optional exponent. -/
def IsNumeral (t : Text) : Prop :=
  ∃ sign digits exponent, t = sign ++ (digits ++ exponent) ∧ IsOptionalSign sign ∧
    IsMantissa digits ∧ (exponent = [] ∨ IsExponent exponent)

/-- A name for an infinity or for what is no number, in any case. -/
def IsNumberName (t : Text) : Prop :=
  Text.lowerAscii t = "nan".toList ∨ Text.lowerAscii t = "inf".toList ∨
    Text.lowerAscii t = "infinity".toList

/-- The texts that a placeholder of a shape stands for. -/
def Shape.Accepts : Shape → Text → Prop
  | signedDigits, t => IsSignedDigits t
  | digits, t => IsDigits t
  | number, t => IsNumeral t ∨ IsNumberName t
  | word, t => t ≠ [] ∧ ∀ c ∈ t, Text.isBlank c = false
  | line, t => t ≠ [] ∧ '\n' ∉ t

/-- A run in two parts: the first part is not empty, or the second part is the whole of it. -/
theorem isRun_append_iff {p : Char → Bool} {a b : Text} :
    IsRun p (a ++ b) ↔ IsRun p a ∧ (b = [] ∨ IsRun p b) ∨ a = [] ∧ IsRun p b := by
  cases a with
  | nil => simp [IsRun]
  | cons c a => cases b <;> simp [IsRun, and_assoc, or_imp, forall_and]

/-! ## The texts of a form -/

namespace Form

variable {f g : Form} {p : Char → Bool} {t : Text}

/-- The only text of an exact form is its own. -/
theorem accepts_exact_iff {l : Text} : (exact l).Accepts t ↔ t = l := by
  constructor
  · rintro ⟨_, _, rfl⟩
    rfl
  · rintro rfl
    exact ⟨(), trivial, rfl⟩

/-- The texts of one character are the characters of its class. -/
theorem accepts_one_iff : (one p).Accepts t ↔ ∃ c, p c = true ∧ t = [c] := by
  constructor
  · rintro ⟨c, hc, rfl⟩
    exact ⟨c, hc, rfl⟩
  · rintro ⟨c, hc, rfl⟩
    exact ⟨c, hc, rfl⟩

/-- The texts of a repetition that takes much are the runs of its class. -/
theorem accepts_greedy_iff : (greedy p).Accepts t ↔ IsRun p t := by
  constructor
  · rintro ⟨run, hrun, rfl⟩
    exact hrun
  · exact fun h => ⟨t, h, rfl⟩

/-- The texts of a repetition that takes little are the runs of its class. -/
theorem accepts_reluctant_iff : (reluctant p).Accepts t ↔ IsRun p t := by
  constructor
  · rintro ⟨run, hrun, rfl⟩
    exact hrun
  · exact fun h => ⟨t, h, rfl⟩

/-- The texts of an optional form are the empty one and those of the form. -/
theorem accepts_optional_iff : (optional f).Accepts t ↔ t = [] ∨ f.Accepts t := by
  constructor
  · rintro ⟨_ | a, ha, rfl⟩
    · exact Or.inl rfl
    · exact Or.inr ⟨a, ha, rfl⟩
  · rintro (rfl | ⟨a, ha, rfl⟩)
    · exact ⟨none, trivial, rfl⟩
    · exact ⟨some a, ha, rfl⟩

/-- The texts of two forms in a row are a text of the one and a text of the other. -/
theorem accepts_seq_iff :
    (seq f g).Accepts t ↔ ∃ a b, t = a ++ b ∧ f.Accepts a ∧ g.Accepts b := by
  constructor
  · rintro ⟨⟨a, b⟩, ⟨ha, hb⟩, rfl⟩
    exact ⟨_, _, rfl, ⟨a, ha, rfl⟩, ⟨b, hb, rfl⟩⟩
  · rintro ⟨_, _, rfl, ⟨a, ha, rfl⟩, ⟨b, hb, rfl⟩⟩
    exact ⟨(a, b), ⟨ha, hb⟩, rfl⟩

/-- The texts of two forms to choose from are those of each. -/
theorem accepts_either_iff : (either f g).Accepts t ↔ f.Accepts t ∨ g.Accepts t := by
  constructor
  · rintro ⟨a | b, hfits, rfl⟩
    · exact Or.inl ⟨a, hfits, rfl⟩
    · exact Or.inr ⟨b, hfits, rfl⟩
  · rintro (⟨a, ha, rfl⟩ | ⟨b, hb, rfl⟩)
    · exact ⟨.inl a, ha, rfl⟩
    · exact ⟨.inr b, hb, rfl⟩

/-! ## The characters of a form -/

/-- All characters that can be read in a form have a property. -/
def CharsIn (q : Char → Prop) : Form → Prop
  | exact l => ∀ c ∈ l, q c
  | one p | greedy p | reluctant p => ∀ c, p c = true → q c
  | optional f => f.CharsIn q
  | seq f g | either f g => f.CharsIn q ∧ g.CharsIn q

/-- The characters of a text of a form have the property that all characters of the form have. -/
theorem Accepts.forall_mem {q : Char → Prop} (h : f.Accepts t) (hf : f.CharsIn q) :
    ∀ c ∈ t, q c := by
  induction f generalizing t with
  | exact l =>
    obtain rfl := accepts_exact_iff.mp h
    exact hf
  | one p =>
    obtain ⟨c, hc, rfl⟩ := accepts_one_iff.mp h
    exact List.forall_mem_singleton.mpr (hf c hc)
  | greedy p =>
    have hrun := accepts_greedy_iff.mp h
    exact fun c hc => hf c (hrun.2 c hc)
  | reluctant p =>
    have hrun := accepts_reluctant_iff.mp h
    exact fun c hc => hf c (hrun.2 c hc)
  | optional f ih =>
    rcases accepts_optional_iff.mp h with rfl | h
    · exact List.forall_mem_nil _
    · exact ih h hf
  | seq f g ihf ihg =>
    obtain ⟨a, b, rfl, ha, hb⟩ := accepts_seq_iff.mp h
    exact List.forall_mem_append.mpr ⟨ihf ha hf.1, ihg hb hf.2⟩
  | either f g ihf ihg =>
    rcases accepts_either_iff.mp h with h | h
    · exact ihf h hf.1
    · exact ihg h hf.2

/-- The characters of a word in any case are those with a small form in the word. -/
theorem charsIn_wordAnyCase {q : Char → Prop} {word : Text}
    (h : ∀ c ∈ word, ∀ d : Char, d.toLower = c → q d) : (wordAnyCase word).CharsIn q := by
  induction word with
  | nil => exact List.forall_mem_nil _
  | cons c word ih =>
    obtain ⟨hc, hword⟩ := List.forall_mem_cons.mp h
    exact ⟨fun d hd => hc d (of_decide_eq_true hd), ih hword⟩

/-! ## The texts of the forms of the shapes -/

/-- The texts of a word in any case are those that are the word in small letters. -/
theorem accepts_wordAnyCase_iff {word : Text} :
    (wordAnyCase word).Accepts t ↔ Text.lowerAscii t = word := by
  induction word generalizing t with
  | nil => simp [wordAnyCase, accepts_exact_iff, Text.lowerAscii]
  | cons c word ih =>
    simp only [wordAnyCase, accepts_seq_iff, accepts_one_iff, ih, Text.lowerAscii,
      List.map_eq_cons_iff, decide_eq_true_eq]
    constructor
    · rintro ⟨_, rest, rfl, ⟨d, hd, rfl⟩, hrest⟩
      exact ⟨d, rest, rfl, hd, hrest⟩
    · rintro ⟨d, rest, rfl, hd, hrest⟩
      exact ⟨[d], rest, rfl, ⟨d, hd, rfl⟩, hrest⟩

/-- The texts of the form of digits are digits. -/
theorem accepts_digitRun_iff : digitRun.Accepts t ↔ IsDigits t := accepts_greedy_iff

/-- The texts of the form of a sign are the signs and the empty text. -/
theorem accepts_sign_iff : sign.Accepts t ↔ IsOptionalSign t := by
  simp [sign, accepts_optional_iff, accepts_one_iff, IsOptionalSign, isSign, or_and_right,
    exists_or]

/-- The texts of the form of a mantissa are the mantissas. -/
theorem accepts_mantissa_iff : mantissa.Accepts t ↔ IsMantissa t := by
  simp only [mantissa, accepts_either_iff, accepts_seq_iff, accepts_optional_iff,
    accepts_digitRun_iff, accepts_one_iff, decide_eq_true_eq]
  constructor
  · rintro (⟨whole, _, rfl, hwhole, _, fraction, rfl, ⟨_, rfl, rfl⟩, hfraction⟩ |
      ⟨_, fraction, rfl, ⟨_, rfl, rfl⟩, hfraction⟩ | hdigits)
    · exact Or.inr ⟨whole, fraction, rfl, isRun_append_iff.mpr (Or.inl ⟨hwhole, hfraction⟩)⟩
    · exact Or.inr ⟨[], fraction, rfl, hfraction⟩
    · exact Or.inl hdigits
  · rintro (hdigits | ⟨whole, fraction, rfl, hdigits⟩)
    · exact Or.inr (Or.inr hdigits)
    · rcases isRun_append_iff.mp hdigits with ⟨hwhole, hfraction⟩ | ⟨rfl, hfraction⟩
      · exact Or.inl ⟨whole, _, rfl, hwhole, ['.'], fraction, rfl, ⟨_, rfl, rfl⟩, hfraction⟩
      · exact Or.inr (Or.inl ⟨['.'], fraction, rfl, ⟨_, rfl, rfl⟩, hfraction⟩)

/-- The texts of the form of an exponent are the exponents. -/
theorem accepts_exponent_iff : exponent.Accepts t ↔ IsExponent t := by
  simp only [exponent, accepts_seq_iff, accepts_sign_iff, accepts_digitRun_iff, accepts_one_iff,
    IsExponent, Bool.or_eq_true, decide_eq_true_eq]
  constructor
  · rintro ⟨_, _, rfl, ⟨e, he, rfl⟩, sign, digits, rfl, hsign, hdigits⟩
    exact ⟨e, sign, digits, rfl, he, hsign, hdigits⟩
  · rintro ⟨e, sign, digits, rfl, he, hsign, hdigits⟩
    exact ⟨[e], _, rfl, ⟨e, he, rfl⟩, sign, digits, rfl, hsign, hdigits⟩

end Form

/-- The texts of the form of a shape are the texts of the shape. -/
theorem Shape.accepts_form_iff {s : Shape} {t : Text} : s.form.Accepts t ↔ s.Accepts t := by
  cases s with
  | signedDigits =>
    simp only [form, Accepts, Form.accepts_seq_iff, Form.accepts_sign_iff,
      Form.accepts_digitRun_iff, IsSignedDigits]
  | digits => exact Form.accepts_digitRun_iff
  | number =>
    simp only [form, Accepts, Form.accepts_either_iff, Form.accepts_seq_iff, Form.accepts_sign_iff,
      Form.accepts_mantissa_iff, Form.accepts_optional_iff, Form.accepts_exponent_iff,
      Form.accepts_wordAnyCase_iff, IsNumeral, IsNumberName]
    refine or_congr ?_ Iff.rfl
    constructor
    · rintro ⟨sign, _, rfl, hsign, digits, exponent, rfl, hdigits, hexponent⟩
      exact ⟨sign, digits, exponent, rfl, hsign, hdigits, hexponent⟩
    · rintro ⟨sign, digits, exponent, rfl, hsign, hdigits, hexponent⟩
      exact ⟨sign, _, rfl, hsign, digits, exponent, rfl, hdigits, hexponent⟩
  | word => simp [form, Accepts, Form.accepts_greedy_iff, IsRun]
  | line =>
    have hmem : (∀ c ∈ t, c ≠ '\n') ↔ '\n' ∉ t :=
      ⟨fun hall hin => hall _ hin rfl, fun hnot c hc heq => hnot (heq ▸ hc)⟩
    simp [form, Accepts, Form.accepts_reluctant_iff, IsRun, hmem]

/-! ## How texts start -/

/-- A text starts with something else than a sign. -/
def StartsUnsigned (t : Text) : Prop := ∃ c rest, t = c :: rest ∧ isSign c = false

/-- What follows does not change how a text starts. -/
theorem StartsUnsigned.append {t : Text} (h : StartsUnsigned t) (u : Text) :
    StartsUnsigned (t ++ u) := by
  obtain ⟨c, rest, rfl, hc⟩ := h
  exact ⟨c, rest ++ u, rfl, hc⟩

/-- A text that starts with something is not empty. -/
theorem StartsUnsigned.ne_nil {t : Text} (h : StartsUnsigned t) : t ≠ [] := by
  obtain ⟨c, rest, rfl, -⟩ := h
  exact List.cons_ne_nil c rest

/-- A decimal digit is no sign. -/
theorem isSign_eq_false_of_isDecimalDigit {c : Char} (h : Text.isDecimalDigit c = true) :
    isSign c = false := by
  cases hsign : isSign c with
  | false => rfl
  | true =>
    simp only [isSign, Bool.or_eq_true, decide_eq_true_eq] at hsign
    rcases hsign with rfl | rfl <;> cases h

/-- Digits start with a digit. -/
theorem IsDigits.startsUnsigned {t : Text} (h : IsDigits t) : StartsUnsigned t := by
  obtain ⟨c, rest, rfl⟩ := List.exists_cons_of_ne_nil h.1
  exact ⟨c, rest, rfl, isSign_eq_false_of_isDecimalDigit (h.2 c List.mem_cons_self)⟩

/-- Digits with an optional point start with a digit or with the point. -/
theorem IsMantissa.startsUnsigned {t : Text} (h : IsMantissa t) : StartsUnsigned t := by
  rcases h with hdigits | ⟨whole, fraction, rfl, hdigits⟩
  · exact hdigits.startsUnsigned
  · rcases isRun_append_iff.mp hdigits with ⟨hwhole, -⟩ | ⟨rfl, -⟩
    · exact IsDigits.startsUnsigned hwhole |>.append _
    · exact ⟨'.', fraction, rfl, rfl⟩

/-- A name starts with a letter. -/
theorem IsNumberName.startsUnsigned {t : Text} (h : IsNumberName t) : StartsUnsigned t := by
  cases t with
  | nil => rcases h with h | h | h <;> cases h
  | cons c rest =>
    refine ⟨c, rest, rfl, ?_⟩
    have hlower : c.toLower = 'n' ∨ c.toLower = 'i' := by
      rcases h with h | h | h
      · exact Or.inl (List.cons.inj h).1
      · exact Or.inr (List.cons.inj h).1
      · exact Or.inr (List.cons.inj h).1
    cases hsign : isSign c with
    | false => rfl
    | true =>
      simp only [isSign, Bool.or_eq_true, decide_eq_true_eq] at hsign
      rcases hsign with rfl | rfl <;> exact absurd hlower (by decide)

end FeatureDoc.Pattern
