import Placard.Decimal.Reading
import Placard.Settings.Given
import Placard.Text.Blank

/-! Settings given by variables: their names, and the grammar of their values. -/

namespace Placard.Variable

/-- What the name of a variable begins with when it gives a setting. -/
def settingPrefix : String := "WALLINFO_"

/-- A text with every pair of underscores exchanged for a point. -/
private def pointed : List Char → List Char
  | '_' :: '_' :: rest => '.' :: pointed rest
  | c :: rest => c :: pointed rest
  | [] => []

/-- The keys that lead to the setting of a variable, in small letters.

Two underscores in a row divide the name into keys, none of which may be empty. -/
def keys? (name : String) : Option (List String) :=
  let letters := Text.inner name.toList
  let size := settingPrefix.length
  if Text.sameIgnoringCase (letters.take size) settingPrefix.toList then
    let keys := (Text.pieces (· == '.') (pointed (letters.drop size))).map (·.map Char.toLower)
    if keys.any List.isEmpty then none else some (keys.map .ofList)
  else none

/-! ### Values -/

/-- A blank between the parts of a value. -/
def isGap (c : Char) : Bool :=
  c == ' ' || c == '\t' || c == '\n' || c == '\r' || c == '\x0c'

/-- What follows blanks. -/
def skipGaps (text : List Char) : List Char := text.dropWhile isGap

/-- The character of a number of hexadecimal digits, and what follows them. -/
private def readCode? (count : Nat) (text : List Char) : Option (Char × List Char) := do
  let isHex (c : Char) := c.isDigit || ('a' ≤ c && c ≤ 'f') || ('A' ≤ c && c ≤ 'F')
  let digits := text.take count
  let value := digits.foldl (fun code c =>
    let lower := c.toLower
    code * 16 + (if lower.isDigit then lower.toNat - 48 else lower.toNat - 87)) 0
  if digits.length == count && digits.all isHex && value.isValidChar then
    some (.ofNat value, text.drop count)
  else none

/-- The characters of a quoted text up to its closing mark; the fuel bounds their number. -/
private def readQuoted? (fuel : Nat) (text : List Char) : Option (List Char × List Char) :=
  match fuel, text with
  | _, '"' :: rest => some ([], rest)
  | fuel + 1, '\\' :: escape :: rest => do
    let (c, after) ← match escape with
      | 'b' => some ('\x08', rest)
      | 't' => some ('\t', rest)
      | 'n' => some ('\n', rest)
      | 'f' => some ('\x0c', rest)
      | 'r' => some ('\r', rest)
      | '"' => some ('"', rest)
      | '\\' => some ('\\', rest)
      | 'u' => readCode? 4 rest
      | 'U' => readCode? 8 rest
      | _ => none
    let (more, final) ← readQuoted? fuel after
    return (c :: more, final)
  | fuel + 1, c :: rest => do
    if c == '\t' || (0x20 ≤ c.toNat && c.toNat != 0x7F) then
      let (more, final) ← readQuoted? fuel rest
      return (c :: more, final)
    else none
  | _, _ => none

/-- A character that ends a value without quotation marks. -/
def isSeparator (c : Char) : Bool := ",\x7b\x7d[]".toList.contains c

/-- The value of a text without quotation marks: a number where it can be one.

Only a text with a point is a number with a fraction. -/
def readBare (text : List Char) : Scalar :=
  let asFloat := if text.contains '.' then Decimal.float? text else none
  match asFloat with
  | some value => .float value
  | none =>
    match Decimal.natural? 0xFFFF_FFFF_FFFF_FFFF text with
    | some value => .unsigned value
    | none =>
      match Decimal.signedWord? text with
      | some value => .signed value
      | none => .text (.ofList text)

mutual

/-- A value and what follows it; the fuel bounds the number of values. -/
def readValue? (fuel : Nat) (text : List Char) : Option (Given × List Char) :=
  match fuel with
  | 0 => none
  | fuel + 1 =>
    let scalar (value : Scalar) (rest : List Char) : Option (Given × List Char) :=
      some (.scalar .environment value, skipGaps rest)
    match skipGaps text with
    | 't' :: 'r' :: 'u' :: 'e' :: rest => scalar (.bool true) rest
    | 'f' :: 'a' :: 'l' :: 's' :: 'e' :: rest => scalar (.bool false) rest
    | '[' :: rest => do
      let (items, after) ← readItems? fuel rest
      return (.list .environment items, skipGaps after)
    | '{' :: rest => do
      let (items, after) ← readPairs? fuel rest
      return (.table .environment items, skipGaps after)
    | '"' :: rest => do
      let (letters, after) ← readQuoted? rest.length rest
      scalar (.text (.ofList letters)) after
    | '\'' :: c :: '\'' :: rest => scalar (.letter c) rest
    | '\'' :: _ => none
    | start =>
      let bare := start.takeWhile (!isSeparator ·)
      scalar (readBare (Text.inner bare)) (start.drop bare.length)

/-- The items of a list up to its closing bracket. -/
def readItems? (fuel : Nat) (text : List Char) : Option (List Given × List Char) :=
  match fuel with
  | 0 => none
  | fuel + 1 =>
    match text with
    | ']' :: rest => some ([], rest)
    | _ => do
      let (item, after) ← readValue? fuel text
      match after with
      | ',' :: rest =>
        let (others, final) ← readItems? fuel rest
        return (item :: others, final)
      | ']' :: rest => return ([item], rest)
      | _ => none

/-- The keys and values of a table up to its closing brace; a later value replaces an earlier one. -/
def readPairs? (fuel : Nat) (text : List Char) :
    Option (List (String × Given) × List Char) :=
  match fuel with
  | 0 => none
  | fuel + 1 =>
    match text with
    | '}' :: rest => some ([], rest)
    | _ => do
      let start := skipGaps text
      let (key, afterKey) ← match start with
        | '"' :: rest => readQuoted? rest.length rest
        | _ =>
          let name := start.takeWhile fun c => c.isAlphanum || c == '_' || c == '-'
          if name.isEmpty then none else some (name, start.drop name.length)
      match skipGaps afterKey with
      | '=' :: rest =>
        let (value, after) ← readValue? fuel rest
        let add (others : List (String × Given)) : List (String × Given) :=
          let name := String.ofList key
          if others.any (·.1 == name) then others else (name, value) :: others
        match after with
        | ',' :: more =>
          let (others, final) ← readPairs? fuel more
          return (add others, final)
        | '}' :: more => return (add [], more)
        | _ => none
      | _ => none

end

/-- The value that a variable gives; what breaks the grammar is a text as it stands. -/
def readValue (text : String) : Given :=
  match readValue? (3 * text.length + 3) text.toList with
  | some (value, []) => value
  | _ => .scalar .environment (.text text)

/-- A value under keys that lead to it. -/
def nest (value : Given) : List String → Given
  | [] => value
  | key :: keys => .table .environment [(key, nest value keys)]

/-- The settings that variables give together; a later variable goes over an earlier one. -/
def layer (environment : List (String × String)) : Given :=
  environment.foldl (fun lower (name, text) =>
    match keys? name with
    | some keys => lower.overlaid (nest (readValue text) keys)
    | none => lower) (.table .environment [])

end Placard.Variable
