/-
# Values of captured texts

The hint of a placeholder says both what can be captured and how it is converted. The two do not
quite agree: decimal digits of every script are captured for a number, and only those of ASCII are
read. Apart from such digits a conversion fails only for integers beyond 64 bits.

* `placeholderOf_cases` : what a hint says about shape and code;
* `readInteger_of_isSignedDigits` : what captured digits are read as;
* `values_of_captures` : the value of each captured text, by the hint of its placeholder.
-/
import FeatureDoc.Argument.Resolution
import FeatureDoc.Proofs.Decimal.Number
import FeatureDoc.Proofs.Pattern.Matching
import Mathlib.Data.List.TakeWhile

namespace FeatureDoc

open Text

namespace Pattern

/-! ## The hints of numbers -/

/-- The hints for integers. -/
def integerHints : List Text :=
  ["i8", "i16", "i32", "i64", "isize", "int", "u8", "u16", "u32", "u64", "usize"]

/-- The hints for numbers in double precision. -/
def numberHints : List Text := ["f32", "f64", "float"]

/-- Whether a placeholder stands for an integer. -/
def Placeholder.isInteger (h : Placeholder) : Bool := h.hint.any (integerHints.contains ·)

/-- Whether a placeholder stands for a number in double precision. -/
def Placeholder.isNumber (h : Placeholder) : Bool := h.hint.any (numberHints.contains ·)

/-- The hints of the table are those for integers, those for numbers, and those that convert
nothing. -/
theorem hintTable_cases : ∀ entry ∈ hintTable, ∀ hint ∈ entry.names,
    integerHints.contains hint = true ∧ numberHints.contains hint = false ∧
        (entry.shape = .signedDigits ∨ entry.shape = .digits) ∧ entry.code = some 'i' ∨
      integerHints.contains hint = false ∧ numberHints.contains hint = true ∧
        entry.shape = .number ∧ entry.code = some 'f' ∨
      integerHints.contains hint = false ∧ numberHints.contains hint = false ∧
        entry.code = none := by
  decide

/-- A placeholder stands for digits that become an integer, for a numeral that becomes a number, or
for a text that remains one. -/
theorem placeholderOf_cases {name : Text} {hint : Option Text} {h : Placeholder}
    (heq : placeholderOf name hint = .ok h) :
    h.isInteger = true ∧ h.isNumber = false ∧ (h.shape = .signedDigits ∨ h.shape = .digits) ∧
        h.code = some 'i' ∨
      h.isInteger = false ∧ h.isNumber = true ∧ h.shape = .number ∧ h.code = some 'f' ∨
      h.isInteger = false ∧ h.isNumber = false ∧ h.code = none := by
  cases hint with
  | none =>
    obtain rfl := Except.ok.inj heq
    exact Or.inr (Or.inr ⟨rfl, rfl, rfl⟩)
  | some hint =>
    rw [placeholderOf] at heq
    cases hentry : hint? hint with
    | none =>
      simp only [hentry] at heq
      cases heq
    | some entry =>
      simp only [hentry] at heq
      obtain rfl := Except.ok.inj heq
      have hnamed : decide (hint ∈ entry.names) = true :=
        List.find?_some (p := fun entry : HintEntry => decide (hint ∈ entry.names)) hentry
      exact hintTable_cases entry (List.mem_of_find?_eq_some hentry) hint
        (of_decide_eq_true hnamed)

/-! ## Numbers have no blanks -/

/-- A sign is no blank. -/
theorem isBlank_eq_false_of_isSign {c : Char} (h : isSign c = true) : isBlank c = false := by
  rw [isSign, Bool.or_eq_true, decide_eq_true_iff, decide_eq_true_iff] at h
  rcases h with rfl | rfl <;> rfl

/-- A letter whose small form is no blank is none. -/
theorem isBlank_eq_false_of_toLower {c d : Char} (hc : isBlank c = false) (h : d.toLower = c) :
    isBlank d = false := by
  cases hblank : isBlank d with
  | false => rfl
  | true =>
    rw [toLower_of_isBlank hblank] at h
    rw [← hblank, h, hc]

/-- A word without blanks has none in any case. -/
theorem charsIn_wordAnyCase_of_hasNoBlank {word : Text} (h : HasNoBlank word) :
    (Form.wordAnyCase word).CharsIn (isBlank · = false) :=
  Form.charsIn_wordAnyCase fun c hc _ => isBlank_eq_false_of_toLower (h c hc)

/-- What can be captured for a number has no blanks. -/
theorem Shape.Accepts.hasNoBlank {s : Shape} {t : Text} (h : s.Accepts t)
    (hs : s = .signedDigits ∨ s = .digits ∨ s = .number) : HasNoBlank t := by
  refine (Shape.accepts_form_iff.mpr h).forall_mem ?_
  have hsign : Form.sign.CharsIn (isBlank · = false) := fun _ => isBlank_eq_false_of_isSign
  have hdigits : Form.digitRun.CharsIn (isBlank · = false) :=
    fun _ => isBlank_eq_false_of_isDecimalDigit
  have hpoint : ∀ c, decide (c = '.') = true → isBlank c = false := by
    rintro c hc
    rw [of_decide_eq_true hc]
    rfl
  have hletter : ∀ c, (decide (c = 'e') || decide (c = 'E')) = true → isBlank c = false := by
    rintro c hc
    rw [Bool.or_eq_true, decide_eq_true_iff, decide_eq_true_iff] at hc
    rcases hc with rfl | rfl <;> rfl
  rcases hs with rfl | rfl | rfl
  · exact ⟨hsign, hdigits⟩
  · exact hdigits
  · have hmantissa : Form.mantissa.CharsIn (isBlank · = false) :=
      ⟨⟨hdigits, hpoint, hdigits⟩, ⟨hpoint, hdigits⟩, hdigits⟩
    have hexponent : Form.exponent.CharsIn (isBlank · = false) := ⟨hletter, hsign, hdigits⟩
    exact ⟨⟨hsign, hmantissa, hexponent⟩, charsIn_wordAnyCase_of_hasNoBlank (by decide),
      charsIn_wordAnyCase_of_hasNoBlank (by decide), charsIn_wordAnyCase_of_hasNoBlank (by decide)⟩

/-! ## Captured integers -/

/-- The beginning of a text up to the first character outside ASCII. -/
def asciiPart (t : Text) : Text := t.takeWhile fun c => c.toNat < 128

/-- A text of ASCII has no other part. -/
theorem asciiPart_eq_self {t : Text} (h : IsAscii t) : asciiPart t = t :=
  List.takeWhile_eq_self_iff.mpr fun c hc => decide_eq_true (h c hc)

/-- Digits stand for signed digits without a sign. -/
theorem IsDigits.isSignedDigits {t : Text} (h : IsDigits t) : IsSignedDigits t :=
  ⟨[], t, rfl, Or.inl rfl, h⟩

/-- Signed digits have no underscores. -/
theorem IsSignedDigits.underscore_notMem {t : Text} (h : IsSignedDigits t) : '_' ∉ t := by
  obtain ⟨sign, digits, rfl, hsign, hdigits⟩ := h
  rw [List.mem_append, not_or]
  refine ⟨?_, fun hin => absurd (hdigits.2 _ hin) (by decide)⟩
  rcases hsign with rfl | rfl | rfl <;> decide

/-- No blanks and no underscores are left out of signed digits. -/
theorem integerDigits_eq_self {t : Text} (h : IsSignedDigits t) : Code.integerDigits t = t := by
  have hblanks : HasNoBlank t := Shape.Accepts.hasNoBlank (s := .signedDigits) h (Or.inl rfl)
  rw [Code.integerDigits, hblanks.trim_eq, Text.without, List.filter_eq_self]
  intro c hc
  rw [bne_iff_ne]
  rintro rfl
  exact h.underscore_notMem hc

/-- Among decimal digits, the digits of ASCII are the characters of ASCII. -/
theorem asciiPart_eq_takeWhile {t : Text} (h : ∀ c ∈ t, isDecimalDigit c = true) :
    asciiPart t = t.takeWhile Char.isDigit := by
  induction t with
  | nil => rfl
  | cons c t ih =>
    obtain ⟨hc, ht⟩ := List.forall_mem_cons.mp h
    have hsame : decide (c.toNat < 128) = c.isDigit := by
      rw [Bool.eq_iff_iff, decide_eq_true_iff, isDigit_iff_of_isDecimalDigit hc]
    rw [asciiPart, List.takeWhile_cons, List.takeWhile_cons, hsame]
    exact congrArg (fun more => if c.isDigit then c :: more else []) (ih ht)

/-- A sign and digits denote the number of the digits with the sign. -/
theorem integerOf_append {sign digits : Text} (hsign : IsOptionalSign sign)
    (hdigits : ∀ c ∈ digits, isDecimalDigit c = true) : Decimal.integerOf (sign ++ digits) =
      Decimal.withSign (Decimal.isNegative sign) (Decimal.ofDigits digits) := by
  cases digits with
  | nil => rcases hsign with rfl | rfl | rfl <;> rfl
  | cons c digits =>
    have hrun : IsDigits (c :: digits) := ⟨List.cons_ne_nil c digits, hdigits⟩
    obtain ⟨hunsigned, hnegative⟩ := Decimal.unsigned_append hsign hrun.startsUnsigned
    rw [Decimal.integerOf, hunsigned, hnegative]

/-- Signed digits are read as the integer that they denote up to the first digit outside ASCII. -/
theorem readInteger_of_isSignedDigits {t : Text} (h : IsSignedDigits t) :
    let value := Decimal.integerOf (asciiPart t)
    Decimal.readInteger t =
      if Decimal.fits64 value then
        if IsAscii t then .ok (Int64.ofInt value) else .error .badDigit
      else .error .outOfRange := by
  obtain ⟨sign, digits, rfl, hsign, hdigits⟩ := h
  have hsignAscii : IsAscii sign := by rcases hsign with rfl | rfl | rfl <;> decide
  have hascii : asciiPart (sign ++ digits) = sign ++ digits.takeWhile Char.isDigit := by
    rw [← asciiPart_eq_takeWhile hdigits.2]
    exact List.takeWhile_append_of_pos fun c hc => decide_eq_true (hsignAscii c hc)
  have hall : digits.all Char.isDigit = true ↔ IsAscii (sign ++ digits) := by
    rw [isAscii_append_iff, and_iff_right hsignAscii, List.all_eq_true,
      isAscii_iff_of_isDecimalDigit hdigits.2]
  have hlead : ∀ c ∈ digits.takeWhile Char.isDigit, isDecimalDigit c = true :=
    fun c hc => hdigits.2 c (List.takeWhile_sublist Char.isDigit |>.mem hc)
  obtain ⟨hunsigned, hnegative⟩ := Decimal.unsigned_append hsign hdigits.startsUnsigned
  rw [Decimal.readInteger_eq (hunsigned.symm ▸ hdigits.1), hunsigned, hnegative, hascii,
    integerOf_append hsign hlead]
  simp only [hall]

/-! ## Values -/

/-- The value of a captured text is as the hint of its placeholder wants it. -/
structure Placeholder.Converts (h : Placeholder) (c : Capture) : Prop where
  /-- Digits of ASCII are the integer that they denote, or do not fit 64 bits. -/
  integer : h.isInteger = true → IsAscii c.raw → c.value =
    if Decimal.fits64 (Decimal.integerOf c.raw) then
      .ok (.int (Int64.ofInt (Decimal.integerOf c.raw)))
    else .error (.outOfRange 'i' c.raw)
  /-- Other digits are invalid, if those before them fit 64 bits. -/
  otherInteger : h.isInteger = true → ¬IsAscii c.raw → c.value =
    if Decimal.fits64 (Decimal.integerOf (asciiPart c.raw)) then
      .error (.invalid 'i' c.raw Decimal.IntegerFault.badDigit.message)
    else .error (.outOfRange 'i' c.raw)
  /-- Numerals of ASCII and names are numbers. -/
  number : h.isNumber = true → IsAscii c.raw → ∃ x, c.value = .ok (.double x)
  /-- Numerals with other digits are invalid. -/
  otherNumber : h.isNumber = true → ¬IsAscii c.raw →
    c.value = .error (.invalid 'f' c.raw Decimal.NumberFault.malformed.message)
  /-- Any other text remains one. -/
  text : h.isInteger = false → h.isNumber = false → c.value = .ok (.text c.raw)

/-- Captured digits are read as an integer. -/
theorem Capture.value_of_integer {c : Capture} (hcode : c.code = some 'i')
    (hraw : IsSignedDigits c.raw) : c.value =
      if Decimal.fits64 (Decimal.integerOf (asciiPart c.raw)) then
        if IsAscii c.raw then .ok (.int (Int64.ofInt (Decimal.integerOf (asciiPart c.raw))))
        else .error (.invalid 'i' c.raw Decimal.IntegerFault.badDigit.message)
      else .error (.outOfRange 'i' c.raw) := by
  have hvalue : c.value = Code.toInt (.text c.raw) := by
    rw [value, hcode]
    rfl
  rw [hvalue, Code.toInt, integerDigits_eq_self hraw, readInteger_of_isSignedDigits hraw]
  split_ifs <;> rfl

/-- A captured numeral or name is read as a number. -/
theorem Capture.value_of_number {c : Capture} (hcode : c.code = some 'f')
    (hraw : IsNumeral c.raw ∨ IsNumberName c.raw) :
    (IsAscii c.raw → ∃ x, c.value = .ok (.double x)) ∧ (¬IsAscii c.raw →
      c.value = .error (.invalid 'f' c.raw Decimal.NumberFault.malformed.message)) := by
  have hblanks : HasNoBlank c.raw :=
    Shape.Accepts.hasNoBlank (s := .number) hraw (Or.inr (Or.inr rfl))
  have hvalue : c.value = Code.toDouble (.text c.raw) := by
    rw [value, hcode]
    rfl
  rw [hvalue, Code.toDouble, hblanks.trim_eq]
  constructor
  · intro hascii
    obtain ⟨x, hx⟩ := Decimal.exists_readNumber_eq_ok hraw hascii
    exact ⟨x, by rw [hx]⟩
  · intro hascii
    rw [Decimal.readNumber_of_not_isAscii hascii]

/-- What a placeholder captures is converted as its hint wants it. -/
theorem converts_of_captures {name : Text} {hint : Option Text} {h : Placeholder}
    (heq : placeholderOf name hint = .ok h) {c : Capture} (hc : h.Captures c) : h.Converts c := by
  have haccepts := hc.accepts
  have hcode := hc.code_eq
  rcases placeholderOf_cases heq with ⟨hinteger, hnumber, hshape, hhole⟩ |
    ⟨hinteger, hnumber, hshape, hhole⟩ | ⟨hinteger, hnumber, hhole⟩ <;> rw [hhole] at hcode
  · have hraw : IsSignedDigits c.raw := by
      rcases hshape with hshape | hshape <;> rw [hshape] at haccepts
      · exact haccepts
      · exact IsDigits.isSignedDigits haccepts
    have hvalue := Capture.value_of_integer hcode hraw
    constructor
    · intro _ hascii
      rw [hvalue, asciiPart_eq_self hascii, if_pos hascii]
    · intro _ hascii
      rw [hvalue, if_neg hascii]
    all_goals simp [hinteger, hnumber]
  · rw [hshape] at haccepts
    have hvalue := Capture.value_of_number hcode haccepts
    constructor
    case number => exact fun _ => hvalue.1
    case otherNumber => exact fun _ => hvalue.2
    all_goals simp [hinteger, hnumber]
  · constructor
    case text => exact fun _ _ => by rw [Capture.value, hcode]
    all_goals simp [hinteger, hnumber]

/-- The placeholders of a pattern convert what they capture as their hints want it. -/
theorem forall₂_converts {t u : Text} {p : Pattern} {cs : List Capture} (h : compile t = .ok p)
    (hcs : p.captures u = some cs) : List.Forall₂ Placeholder.Converts p.placeholders cs := by
  have hall : List.Forall₂ (fun hole c => (∃ name hint, placeholderOf name hint = .ok hole) ∧
      hole.Captures c) p.placeholders cs :=
    (List.forall₂_and_left _ _).mpr
      ⟨fun hole hhole => exists_placeholderOf_of_compile h hhole, (fills_of_captures hcs).2.2⟩
  refine hall.imp fun hole c => ?_
  rintro ⟨⟨name, hint, heq⟩, hc⟩
  exact converts_of_captures heq hc

/-- The captured values cannot be made because the value of one of them cannot. -/
theorem exists_of_captureValues_eq_error {R : Placeholder → Capture → Prop}
    {holes : List Placeholder} {cs : List Capture} {e : ResolveError}
    (hall : List.Forall₂ R holes cs) (h : captureValues cs = .error e) :
    ∃ hole c cause, (hole, c) ∈ holes.zip cs ∧ R hole c ∧ c.value = .error cause ∧
      e = .capture c.name c.raw cause := by
  induction hall with
  | nil => cases h
  | @cons hole c holes cs hc hrest ih =>
    rw [captureValues] at h
    cases hvalue : c.value with
    | error cause =>
      simp only [hvalue] at h
      exact ⟨hole, c, cause, List.mem_cons_self, hc, hvalue, (Except.error.inj h).symm⟩
    | ok v =>
      simp only [hvalue] at h
      obtain ⟨hole', c', cause, hmem, hrel⟩ := ih (eq_error_of_map_eq_error h)
      exact ⟨hole', c', cause, List.mem_cons_of_mem _ hmem, hrel⟩

/-- A captured value cannot be made only if it is an integer beyond 64 bits, or if there are digits
outside ASCII in it. -/
theorem Placeholder.Converts.of_value_eq_error {h : Placeholder} {c : Capture}
    {cause : ConversionError} (hc : h.Converts c) (hvalue : c.value = .error cause) :
    h.isInteger = true ∧ IsAscii c.raw ∧ Decimal.fits64 (Decimal.integerOf c.raw) = false ∨
      (h.isInteger = true ∨ h.isNumber = true) ∧ ¬IsAscii c.raw := by
  by_cases hascii : IsAscii c.raw
  · refine Or.inl ?_
    cases hinteger : h.isInteger with
    | true =>
      have heq := hc.integer hinteger hascii
      split_ifs at heq with hfits
      · cases hvalue.symm.trans heq
      · exact ⟨rfl, hascii, Bool.eq_false_iff.mpr hfits⟩
    | false =>
      cases hnumber : h.isNumber with
      | true =>
        obtain ⟨x, hx⟩ := hc.number hnumber hascii
        cases hvalue.symm.trans hx
      | false => cases hvalue.symm.trans (hc.text hinteger hnumber)
  · refine Or.inr ⟨?_, hascii⟩
    by_contra hneither
    rw [not_or, Bool.not_eq_true, Bool.not_eq_true] at hneither
    cases hvalue.symm.trans (hc.text hneither.1 hneither.2)

/-- What a pattern captures is converted as the hints of its placeholders want it, and a step that
is matched lacks its bindings only for an integer beyond 64 bits or for digits outside ASCII. -/
theorem values_of_captures {t u : Text} {p : Pattern} {cs : List Capture} (h : compile t = .ok p)
    (hcs : p.captures u = some cs) :
    List.Forall₂ Placeholder.Converts p.placeholders cs ∧
    ∀ (step : Step) (e : ResolveError), step.bindings cs = .error e →
      ∃ hole c cause, (hole, c) ∈ p.placeholders.zip cs ∧ e = .capture c.name c.raw cause ∧
        (hole.isInteger = true ∧ IsAscii c.raw ∧
            Decimal.fits64 (Decimal.integerOf c.raw) = false ∨
          (hole.isInteger = true ∨ hole.isNumber = true) ∧ ¬IsAscii c.raw) := by
  have hall := forall₂_converts h hcs
  refine ⟨hall, fun step e he => ?_⟩
  have hvalues : captureValues cs = .error e := eq_error_of_map_eq_error he
  obtain ⟨hole, c, cause, hmem, hc, hvalue, he⟩ := exists_of_captureValues_eq_error hall hvalues
  exact ⟨hole, c, cause, hmem, he, hc.of_value_eq_error hvalue⟩

/-- An integer beyond 64 bits and a number, captured by one pattern. -/
theorem converts_of_wide_integer : ∃ p, compile "{n:int} of {x:float}" = .ok p ∧
    p.captures "9223372036854775808 of 2.5" =
      some [⟨"n", "9223372036854775808", some 'i'⟩, ⟨"x", "2.5", some 'f'⟩] ∧
    List.Forall₂ Placeholder.Converts p.placeholders
      [⟨"n", "9223372036854775808", some 'i'⟩, ⟨"x", "2.5", some 'f'⟩] := by
  have hcompile : compile "{n:int} of {x:float}" = .ok ⟨"{n:int} of {x:float}",
      [.hole ⟨"n", some "int", .signedDigits, some 'i'⟩, .literal " of ",
        .hole ⟨"x", some "float", .number, some 'f'⟩]⟩ := by rfl
  refine ⟨_, hcompile, rfl, (values_of_captures (u := "9223372036854775808 of 2.5") hcompile ?_).1⟩
  rfl

/-- A digit outside ASCII is captured for an integer and cannot be read as one. -/
theorem invalid_of_arabic_digit : ∃ p c, compile "{n:int}" = .ok p ∧
    p.captures "٣" = some [c] ∧ p.placeholders.map Placeholder.isInteger = [true] ∧
    c.value = .error (.invalid 'i' "٣" "invalid digit found in string") := by
  refine ⟨⟨"{n:int}", [.hole ⟨"n", some "int", .signedDigits, some 'i'⟩]⟩, ⟨"n", "٣", some 'i'⟩,
    ?_, ?_, ?_, ?_⟩ <;> rfl

end Pattern

end FeatureDoc
