import Placard.Text.Split

/-! Reading numbers: whole numbers within bounds, and decimals as the nearest floating-point number. -/

namespace Placard

/-- The largest whole number of 64 bits. -/
def largestWord : Nat := 0xFFFF_FFFF_FFFF_FFFF

namespace Decimal

/-- The number that decimal digits denote, read after the digits of a first part. -/
def natural (start : Nat) (digits : List Char) : Nat :=
  digits.foldl (fun value c => value * 10 + (c.toNat - '0'.toNat)) start

/-- A whole number written with ASCII digits only, at least one. -/
def digits? (text : List Char) : Option Nat :=
  if text.isEmpty || !text.all Char.isDigit then none else some (natural 0 text)

/-- A whole number that may have a plus sign and must not exceed a bound. -/
def natural? (bound : Nat) (text : List Char) : Option Nat :=
  let unsigned := match text with
    | '+' :: rest => rest
    | all => all
  (digits? unsigned).filter (· ≤ bound)

/-- A whole number that may have a sign and must lie within bounds. -/
def integer? (low high : Int) (text : List Char) : Option Int :=
  let value? := match text with
    | '-' :: rest => (digits? rest).map fun value => -(value : Int)
    | '+' :: rest => (digits? rest).map Int.ofNat
    | all => (digits? all).map Int.ofNat
  value?.filter fun value => low ≤ value && value ≤ high

/-- A whole number that may have a sign and must fit a signed word of 64 bits. -/
def signedWord? (text : List Char) : Option Int :=
  integer? (-0x8000_0000_0000_0000) 0x7FFF_FFFF_FFFF_FFFF text

/-- The floating-point number nearest to `digits * 10 ^ exponent`. -/
def nearest (digits : Nat) (exponent : Int) : Float :=
  -- Beyond these bounds every number is infinite or zero, whatever its digits.
  let place := exponent + (Nat.toDigits 10 digits).length
  if digits == 0 || place < -400 then 0.0
  else if 400 < place then 1.0 / 0.0
  else match exponent with
    | .ofNat up => Float.ofScientific (digits * Nat.pow 10 up) false 0
    | .negSucc down => Float.ofScientific digits true (down + 1)

/-- An exponent part: nothing, or the mark, an optional sign and digits. -/
def exponent? : List Char → Option Int
  | [] => some 0
  | mark :: rest =>
    if mark != 'e' && mark != 'E' then none
    else match rest with
      | '-' :: digits => (digits? digits).map fun value => -(value : Int)
      | '+' :: digits => (digits? digits).map Int.ofNat
      | digits => (digits? digits).map Int.ofNat

/-- A magnitude: digits, an optional point with digits on one side of it at least, an exponent. -/
def magnitude? (text : List Char) : Option Float := do
  let whole := text.takeWhile Char.isDigit
  let afterWhole := text.drop whole.length
  let fraction := match afterWhole with
    | '.' :: rest => rest.takeWhile Char.isDigit
    | _ => []
  let afterFraction := match afterWhole with
    | '.' :: rest => rest.drop fraction.length
    | rest => rest
  if whole.isEmpty && fraction.isEmpty then none
  else
    let exponent ← exponent? afterFraction
    return nearest (natural 0 (whole ++ fraction)) (exponent - fraction.length)

/-- A floating-point number in decimal, or one of the words for infinity and the undefined number. -/
def float? (text : List Char) : Option Float :=
  let unsigned := match text with
    | '-' :: rest => rest
    | '+' :: rest => rest
    | all => all
  let word (name : String) := Text.sameIgnoringCase name.toList unsigned
  let value? :=
    if word "inf" || word "infinity" then some (1.0 / 0.0)
    else if word "nan" then some (Float.ofBits 0x7FF8000000000000)
    else magnitude? unsigned
  -- The sign is put on last, so that a negative zero stays negative.
  if text.head? == some '-' then value?.map Float.neg else value?

end Decimal

end Placard
