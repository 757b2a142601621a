import Placard.Decimal.Reading
import Placard.Toml.Cursor
import Placard.Toml.Value

/-! TOML numbers, dates and times. -/

namespace Placard.Toml

/-- Further digits, with single underscores between them, and what follows them. -/
def moreDigits (isDigit : Char → Bool) : List Char → Except Halt (List Char × List Char)
  | ['_'] => halt []
  | '_' :: c :: rest =>
    if isDigit c then (moreDigits isDigit rest).map fun (digits, final) => (c :: digits, final)
    else halt (c :: rest)
  | c :: rest =>
    if isDigit c then (moreDigits isDigit rest).map fun (digits, final) => (c :: digits, final)
    else .ok ([], c :: rest)
  | [] => .ok ([], [])

/-- Digits, at least one, and what follows them. -/
def readDigits (isDigit : Char → Bool) (text : List Char) :
    Except Halt (List Char × List Char) :=
  match text with
  | c :: rest =>
    if isDigit c then (moreDigits isDigit rest).map fun (digits, final) => (c :: digits, final)
    else decline text
  | [] => decline []

/-- A sign in front of a number, and what follows it. -/
def takeSign : List Char → List Char × List Char
  | '+' :: rest => (['+'], rest)
  | '-' :: rest => (['-'], rest)
  | other => ([], other)

/-- The sign and the digits of a whole number; a zero in front stands alone. -/
def readWhole (text : List Char) : Except Halt (List Char × List Char) := do
  let (sign, unsigned) := takeSign text
  match unsigned with
  | '0' :: rest => return (sign ++ ['0'], rest)
  | _ =>
    let (digits, rest) ← readDigits Char.isDigit unsigned
    return (sign ++ digits, rest)

/-- An exponent: its mark, a sign and digits. -/
def readExponent (text : List Char) : Except Halt (List Char × List Char) :=
  match text with
  | mark :: rest =>
    if mark == 'e' || mark == 'E' then do
      let (sign, unsigned) := takeSign rest
      let (digits, final) ← insist (readDigits Char.isDigit unsigned)
      return ('e' :: sign ++ digits, final)
    else decline text
  | [] => decline text

/-- The digits of a number with a point or an exponent. -/
def readDecimal (text : List Char) : Except Halt (List Char × List Char) := do
  let (whole, rest) ← readWhole text
  match rest with
  | '.' :: after =>
    let (fraction, afterFraction) ← insist (readDigits Char.isDigit after)
    match readExponent afterFraction with
    | .ok (exponent, final) => return (whole ++ '.' :: fraction ++ exponent, final)
    | .error ⟨left, true⟩ => throw ⟨left, true⟩
    | .error _ => return (whole ++ '.' :: fraction, afterFraction)
  | _ =>
    let (exponent, final) ← readExponent rest
    return (whole ++ exponent, final)

/-- Infinity, or the undefined number, in its word. -/
def readNamed (text : List Char) : Except Halt (Toml × List Char) :=
  let (sign, unsigned) := takeSign text
  match unsigned with
  | 'i' :: 'n' :: 'f' :: rest =>
    .ok (.float (if sign == ['-'] then -1.0 / 0.0 else 1.0 / 0.0), rest)
  | 'n' :: 'a' :: 'n' :: rest => .ok (.float (Float.ofBits 0x7FF8000000000000), rest)
  | _ => decline unsigned

/-- A number with a point, an exponent or a name; a digit string may not reach infinity. -/
def readFloat (text : List Char) : Except Halt (Toml × List Char) :=
  match readDecimal text with
  | .ok (letters, rest) =>
    match Decimal.float? letters with
    | some value => if value == 1.0 / 0.0 then halt text else .ok (.float value, rest)
    | none => halt text
  | .error ⟨left, true⟩ => .error ⟨left, true⟩
  | .error _ => readNamed text

/-- A digit of a base. -/
private def isBaseDigit (base : Nat) (c : Char) : Bool :=
  match base with
  | 2 => c == '0' || c == '1'
  | 8 => '0' ≤ c && c ≤ '7'
  | _ => c.isDigit || ('a' ≤ c && c ≤ 'f') || ('A' ≤ c && c ≤ 'F')

/-- The number that digits of a base denote. -/
private def baseValue (base : Nat) (digits : List Char) : Nat :=
  digits.foldl (fun value c =>
    let lower := c.toLower
    value * base + (if lower.isDigit then lower.toNat - 48 else lower.toNat - 87)) 0

/-- A whole number of 64 bits; another base than ten has a mark in front. -/
def readInteger (text : List Char) : Except Halt (Toml × List Char) :=
  let inBase (base : Nat) (rest : List Char) : Except Halt (Toml × List Char) := do
    let (digits, final) ← insist (readDigits (isBaseDigit base) rest)
    let value := baseValue base digits
    if value < 0x8000_0000_0000_0000 then return (.integer value, final) else halt text
  match text with
  | '0' :: 'x' :: rest => inBase 16 rest
  | '0' :: 'o' :: rest => inBase 8 rest
  | '0' :: 'b' :: rest => inBase 2 rest
  | _ => do
    let (letters, rest) ← readWhole text
    match Decimal.signedWord? letters with
    | some value => return (.integer value, rest)
    | none => halt text

/-! ### Dates and times -/

/-- A number of a fixed count of digits within bounds. -/
def readField (count low high : Nat) (text : List Char) : Except Halt (Nat × List Char) :=
  let digits := text.take count
  let value := Decimal.natural 0 digits
  if digits.length == count && digits.all Char.isDigit && low ≤ value && value ≤ high then
    .ok (value, text.drop count)
  else decline text

/-- A given character. -/
def readMark (mark : Char) (text : List Char) : Except Halt (List Char) :=
  if text.head? == some mark then .ok text.tail else decline text

/-- The last day of a month. -/
private def lastDay (year month : Nat) : Nat :=
  if month == 2 then
    if year % 4 == 0 && (year % 100 != 0 || year % 400 == 0) then 29 else 28
  else if [4, 6, 9, 11].contains month then 30
  else 31

/-- What follows a date. -/
def readDate (text : List Char) : Except Halt (List Char) := do
  let (year, afterYear) ← readField 4 0 9999 text
  let (month, afterMonth) ← insist (readField 2 1 12 (← readMark '-' afterYear))
  let start ← insist (readMark '-' afterMonth)
  let (_, rest) ← insist (readField 2 1 (lastDay year month) start)
  return rest

/-- What follows a time of day. -/
def readTime (text : List Char) : Except Halt (List Char) := do
  let (_, afterHour) ← readField 2 0 23 text
  let (_, afterMinute) ← insist (readField 2 0 59 (← readMark ':' afterHour))
  let (_, rest) ← insist (readField 2 0 60 (← insist (readMark ':' afterMinute)))
  match rest with
  | '.' :: c :: _ =>
    return if c.isDigit then rest.tail.dropWhile Char.isDigit else rest
  | _ => return rest

/-- What follows the distance of a time from the common time, if it is given. -/
private def readOffset (text : List Char) : Except Halt (List Char) :=
  match text with
  | c :: rest =>
    if c == 'Z' || c == 'z' then .ok rest
    else if c == '+' || c == '-' then do
      let (_, afterHour) ← insist (readField 2 0 23 rest)
      let (_, final) ← insist (readField 2 0 59 (← insist (readMark ':' afterHour)))
      return final
    else .ok text
  | [] => .ok []

/-- A date, a date with a time behind it, or a time of day. -/
def readMoment (text : List Char) : Except Halt (Toml × List Char) := do
  let written (rest : List Char) : Toml := .date (.ofList (text.take (text.length - rest.length)))
  let dated : Except Halt (Toml × List Char) := do
    let afterDate ← readDate text
    match afterDate with
    | mark :: rest =>
      if mark == 'T' || mark == 't' || mark == ' ' then
        match readTime rest with
        | .ok afterTime =>
          let final ← readOffset afterTime
          return (written final, final)
        | .error ⟨left, true⟩ => throw ⟨left, true⟩
        | .error _ => return (written afterDate, afterDate)
      else return (written afterDate, afterDate)
    | [] => return (written [], [])
  orElse dated fun _ => do
    let rest ← readTime text
    return (written rest, rest)

/-- What begins with a sign or a digit: a date, a time, or a number. -/
def readNumber (text : List Char) : Except Halt (Toml × List Char) :=
  orElse (readMoment text) fun _ => orElse (readFloat text) fun _ => readInteger text

end Placard.Toml
