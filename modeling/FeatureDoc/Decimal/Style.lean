/-
# Written forms of double-precision numbers

All written forms show the shortest digits that read back. They differ in when they use an
exponent and in how whole numbers look; a `Style` holds these choices.
-/
import FeatureDoc.Decimal.Shortest
import FeatureDoc.Text.Basic

namespace FeatureDoc.Decimal

/-- The choices of a written form. -/
structure Style where
  /-- Whether a number whose first digit counts `10 ^ e` is written without an exponent. -/
  isPlain : Int → Bool
  /-- What follows a whole number that is written without an exponent. -/
  wholeEnd : Text
  /-- What stands between `e` and an exponent that is not negative. -/
  plusSign : Text

/-- The form for readers: never an exponent, and no point in whole numbers. -/
def Style.plain : Style := ⟨fun _ => true, [], []⟩

/-- The form for diagnostics: an exponent below `1e-4` and from `1e16` on. -/
def Style.inspect : Style := ⟨fun e => -4 ≤ e && e ≤ 15, ".0", []⟩

/-- The form in JSON: an exponent below `1e-5` and from `1e+16` on. -/
def Style.json : Style := ⟨fun e => -5 ≤ e && e ≤ 15, ".0", "+"⟩

/-- The digits without an exponent. -/
def writePlain (style : Style) (d : Digits) : Text :=
  if d.exponent < 0 then
    "0." ++ List.replicate (-d.exponent - 1).toNat '0' ++ d.digits
  else
    let whole := d.exponent.toNat + 1
    if d.digits.length ≤ whole then
      d.digits ++ List.replicate (whole - d.digits.length) '0' ++ style.wholeEnd
    else
      d.digits.take whole ++ "." ++ d.digits.drop whole

/-- The digits with a point after the first one, and the exponent. -/
def writeScientific (style : Style) (d : Digits) : Text :=
  d.digits.take 1 ++ (if d.digits.length ≤ 1 then [] else '.' :: d.digits.drop 1) ++ "e" ++
    (if d.exponent < 0 then [] else style.plusSign) ++ Text.ofInt d.exponent

/-- A number in the given style. -/
def write (style : Style) (x : Double) : Text :=
  let signed (negative : Bool) (t : Text) : Text := if negative then '-' :: t else t
  match x.decode with
  | .notANumber _ => "NaN"
  | .infinite negative => signed negative "inf"
  | .finite negative mantissa exponent =>
    if mantissa = 0 then signed negative ("0" ++ style.wholeEnd)
    else
      let d := shortest mantissa exponent
      let written :=
        if style.isPlain d.exponent then writePlain style d else writeScientific style d
      signed negative written

end FeatureDoc.Decimal
