import Placard.Decimal.Reading

/-! Which texts a reader of YAML takes for a value that is no text. -/

namespace Placard.Yaml

/-- The words for nothing. -/
def nullWords : List String := ["", "~", "null", "Null", "NULL"]

/-- The words for truth values. -/
def boolWords : List String := ["true", "True", "TRUE", "false", "False", "FALSE"]

/-- The words for numbers without digits. -/
def dottedWords : List String :=
  [".inf", ".Inf", ".INF", "+.inf", "+.Inf", "+.INF", "-.inf", "-.Inf", "-.INF",
    ".nan", ".NaN", ".NAN"]

/-- The marks of bases other than ten. -/
def baseMarks : List (List Char × Nat) := [(['0', 'x'], 16), (['0', 'o'], 8), (['0', 'b'], 2)]

/-- The value of a letter as a digit up to fifteen. -/
def digitValue? (c : Char) : Option Nat :=
  if c.isDigit then some (c.toNat - '0'.toNat)
  else if 'a' ≤ c ∧ c ≤ 'f' then some (c.toNat - 'a'.toNat + 10)
  else if 'A' ≤ c ∧ c ≤ 'F' then some (c.toNat - 'A'.toNat + 10)
  else none

/-- The number that digits of a base denote, if there is at least one. -/
def inBase? (base : Nat) (digits : List Char) : Option Nat := do
  if digits.isEmpty then none
  let values ← digits.mapM fun c => (digitValue? c).filter (· < base)
  return values.foldl (fun total value => total * base + value) 0

/-- A text denotes a number up to a bound with the mark of a base before its digits. -/
def namesBased (bound : Nat) (text : List Char) : Bool :=
  baseMarks.any fun (mark, base) =>
    match Text.dropPrefix? mark text with
    | some digits => (inBase? base digits).any (· ≤ bound)
    | none => false

/-- A text denotes a marked number of at most 128 bits, with or without a sign. -/
def namesMarked (text : List Char) : Bool :=
  match text with
  | '-' :: rest => namesBased 0x8000_0000_0000_0000_0000_0000_0000_0000 rest
  | '+' :: rest => namesBased 0xFFFF_FFFF_FFFF_FFFF_FFFF_FFFF_FFFF_FFFF rest
  | all => namesBased 0xFFFF_FFFF_FFFF_FFFF_FFFF_FFFF_FFFF_FFFF all

/-- Digits after a needless zero are no number, though they look like one. -/
def isPadded (text : List Char) : Bool :=
  let unsigned := match text with
    | '-' :: rest => rest
    | '+' :: rest => rest
    | all => all
  unsigned.length > 1 && unsigned.head? == some '0' && unsigned.all Char.isDigit

/-- A text denotes a finite number in decimal. -/
def namesDecimal (text : List Char) : Bool :=
  (Decimal.float? text).any Float.isFinite

/-- A text that, written bare, would not be read back as itself. -/
def namesValue (text : String) : Bool :=
  nullWords.contains text || boolWords.contains text || dottedWords.contains text ||
    namesMarked text.toList || isPadded text.toList || namesDecimal text.toList

end Placard.Yaml
