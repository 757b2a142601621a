import Placard.Decimal.Shortest

/-! How a floating-point number is written: where the point stands, and when an exponent is used. -/

namespace Placard.Decimal

/-- The decisions of one written form of floating-point numbers. -/
structure Layout where
  /-- The places of the point for which no exponent is written: above the first, up to the second. -/
  positional : Option (Int × Int)
  /-- Whole numbers keep a point and one zero. -/
  keepsPoint : Bool
  /-- A positive exponent has a plus sign. -/
  signsExponent : Bool
  infinity : String
  undefinedNumber : String
deriving Repr

/-- Numbers in JSON text have an exponent from ten to the sixteenth on and below a hundred-thousandth. -/
def json : Layout := ⟨some (-5, 16), true, true, "null", "null"⟩

/-- Numbers in YAML text differ from those in JSON by the bare exponent and the dotted words. -/
def yaml : Layout := ⟨some (-5, 16), true, false, ".inf", ".nan"⟩

/-- Numbers in running text never have an exponent, and whole ones have no point. -/
def plain : Layout := ⟨none, false, false, "inf", "NaN"⟩

/-- Numbers in TOML text never have an exponent, and whole ones keep their point. -/
def toml : Layout := ⟨none, true, false, "inf", "nan"⟩

/-- Zeros in a row. -/
def zeros (count : Nat) : String :=
  .ofList (List.replicate count '0')

/-- Digits written with a point and no exponent. -/
def positionalText (layout : Layout) (digits : List Char) (point : Int) : String :=
  let tail := if layout.keepsPoint then ".0" else ""
  if point ≤ 0 then "0." ++ zeros (-point).toNat ++ .ofList digits
  else if digits.length ≤ point.toNat then
    .ofList digits ++ zeros (point.toNat - digits.length) ++ tail
  else .ofList (digits.take point.toNat) ++ "." ++ .ofList (digits.drop point.toNat)

/-- Digits written with one digit before the point and an exponent. -/
def scientificText (layout : Layout) (digits : List Char) (point : Int) : String :=
  let exponent := point - 1
  let mark := if exponent < 0 then "e-" else if layout.signsExponent then "e+" else "e"
  let fraction := if digits.length ≤ 1 then "" else "." ++ .ofList (digits.drop 1)
  .ofList (digits.take 1) ++ fraction ++ mark ++ toString exponent.natAbs

/-- The magnitude of a finite number in a layout. -/
def magnitudeText (layout : Layout) (value : Float) : String :=
  if (magnitude value).significand == 0 then if layout.keepsPoint then "0.0" else "0"
  else
    let decimal := (magnitude value).shortest
    let digits := Nat.toDigits 10 decimal.digits
    let point := decimal.exponent + digits.length
    match layout.positional with
    | none => positionalText layout digits point
    | some (low, high) =>
      if low < point && point ≤ high then positionalText layout digits point
      else scientificText layout digits point

/-- A floating-point number in a layout. -/
def Layout.write (layout : Layout) (value : Float) : String :=
  if value.isNaN then layout.undefinedNumber
  else
    let sign := if isNegative value then "-" else ""
    sign ++ (if value.isInf then layout.infinity else magnitudeText layout value)

end Placard.Decimal
