import Placard.Decimal.Reading
import Placard.Json.Fault

/-! Reading JSON text: values of any kind, values of one kind, and values that are passed over. -/

namespace Placard.Json

/-- A reader takes the characters that remain and gives a value with those after it, or a fault. -/
abbrev Reader (α : Type) := List Char → Except Fault (α × List Char)

/-- The characters that may stand between the parts of a value. -/
def isSpace (c : Char) : Bool :=
  c == ' ' || c == '\n' || c == '\t' || c == '\r'

/-- The characters after any space. -/
def skipSpace (text : List Char) : List Char :=
  text.dropWhile isSpace

/-- Reads the rest of a word whose first letter has been seen. -/
def readWord : List Char → Reader Unit
  | [], text => .ok ((), text)
  | _ :: _, [] => .error (.before .endInValue [])
  | w :: word, c :: rest =>
    if w = c then readWord word rest else .error (.on .wordWanted (c :: rest))

/-! ### Strings -/

/-- The value of a hexadecimal digit. -/
def hexValue? (c : Char) : Option Nat :=
  if c.isDigit then some (c.toNat - '0'.toNat)
  else if 'a' ≤ c ∧ c ≤ 'f' then some (c.toNat - 'a'.toNat + 10)
  else if 'A' ≤ c ∧ c ≤ 'F' then some (c.toNat - 'A'.toNat + 10)
  else none

/-- The value of four hexadecimal digits. -/
def hexQuad? (a b c d : Char) : Option Nat := do
  return (((← hexValue? a) * 16 + (← hexValue? b)) * 16 + (← hexValue? c)) * 16 + (← hexValue? d)

/-- A fault four bytes into the characters that remain, where four digits were wanted. -/
def badQuad (rest : List Char) : Fault :=
  -- A text that ends before the fourth byte is unfinished rather than wrong.
  if Text.byteLength rest < 4 then .before .endInString []
  else ⟨.badEscape, Text.byteLength rest - 4⟩

/-- The character that an escape of one letter stands for. -/
def shortEscape? : Char → Option Char
  | '"' => some '"'
  | '\\' => some '\\'
  | '/' => some '/'
  | 'b' => some '\x08'
  | 'f' => some '\x0c'
  | 'n' => some '\n'
  | 'r' => some '\r'
  | 't' => some '\t'
  | _ => none

/-- A number is the first half of a pair that stands for one character. -/
def isLeading (code : Nat) : Bool := 0xD800 ≤ code && code ≤ 0xDBFF

/-- A number is the second half of such a pair. -/
def isTrailing (code : Nat) : Bool := 0xDC00 ≤ code && code ≤ 0xDFFF

/-- The character that a pair of halves stands for. -/
def pairChar (leading trailing : Nat) : Char :=
  .ofNat ((leading - 0xD800) * 0x400 + (trailing - 0xDC00) + 0x10000)

/-- What is wrong after the first half of a pair that has no second half. -/
def brokenPair : List Char → Fault
  | '\\' :: 'u' :: a :: b :: c :: d :: rest =>
    match hexQuad? a b c d with
    | some _ => .before .loneSurrogate rest
    | none => badQuad (a :: b :: c :: d :: rest)
  | '\\' :: 'u' :: rest => badQuad rest
  | '\\' :: [] => .before .endInString []
  | '\\' :: c :: rest => .on .brokenPair (c :: rest)
  | [] => .before .endInString []
  | c :: rest => .on .brokenPair (c :: rest)

/-- Puts a character in front of a string that was read. -/
def consRead (c : Char) (read : Except Fault (List Char × List Char)) :
    Except Fault (List Char × List Char) :=
  read.map fun (text, rest) => (c :: text, rest)

/-- Reads the characters of a string up to its closing mark. -/
def readString : Reader (List Char)
  | [] => .error (.before .endInString [])
  | '"' :: rest => .ok ([], rest)
  | '\\' :: 'u' :: a :: b :: c :: d :: rest =>
    match hexQuad? a b c d with
    | none => .error (badQuad (a :: b :: c :: d :: rest))
    | some code =>
      if isTrailing code then .error (.before .loneSurrogate rest)
      else if isLeading code then
        -- The second half must follow at once, in an escape of the same form.
        match rest with
        | '\\' :: 'u' :: e :: f :: g :: h :: after =>
          match (hexQuad? e f g h).filter isTrailing with
          | some trailing => consRead (pairChar code trailing) (readString after)
          | none => .error (brokenPair rest)
        | _ => .error (brokenPair rest)
      else consRead (.ofNat code) (readString rest)
  | '\\' :: 'u' :: rest => .error (badQuad rest)
  | '\\' :: [] => .error (.before .endInString [])
  | '\\' :: c :: rest =>
    match shortEscape? c with
    | some plain => consRead plain (readString rest)
    | none => .error (.on .badEscape (c :: rest))
  | c :: rest =>
    if c.toNat < 0x20 then .error (.on .controlCharacter (c :: rest))
    else consRead c (readString rest)

/-! ### Numbers -/

/-- The largest whole number of 64 bits. -/
def maxWord : Nat := 0xFFFF_FFFF_FFFF_FFFF

/-- Ten to a power as a floating-point number. -/
def tenTo (power : Nat) : Float := Float.ofScientific 1 false power

/-- A whole number of at most 64 bits scaled by a power of ten.

One multiplication or division by a stored power is made for each 308 steps of the exponent, so
the result is not always the nearest number. -/
def scaled (fuel : Nat) (value : Float) (exponent : Int) : Option Float :=
  match fuel with
  | 0 => some value
  | fuel + 1 =>
    if exponent.natAbs ≤ 308 then
      if 0 ≤ exponent then
        let product := value * tenTo exponent.natAbs
        if product.isInf then none else some product
      else some (value / tenTo exponent.natAbs)
    else if value == 0.0 then some value
    else if 0 ≤ exponent then none
    else scaled fuel (value / tenTo 308) (exponent + 308)

/-- The floating-point number of a sign, significant digits and an exponent. -/
def floatOf (negative : Bool) (significand : Nat) (exponent : Int) (rest : List Char) :
    Except Fault (Number × List Char) :=
  -- Four steps of 308 bring every number of 64 bits down to zero.
  match scaled 8 significand.toUInt64.toFloat exponent with
  | some value => .ok (.float (if negative then -value else value), rest)
  | none => .error (.before .numberRange rest)

/-- The digits at the start of a text that keep a number within 64 bits, and the number they make. -/
def takeDigits (value : Nat) : List Char → Nat × List Char
  | [] => (value, [])
  | c :: rest =>
    let next := value * 10 + (c.toNat - '0'.toNat)
    if c.isDigit && next ≤ maxWord then takeDigits next rest else (value, c :: rest)

/-- Reads an exponent after its mark. -/
def readExponent (negative : Bool) (significand : Nat) (start : Int) (text : List Char) :
    Except Fault (Number × List Char) :=
  let (down, unsigned) := match text with
    | '+' :: rest => (false, rest)
    | '-' :: rest => (true, rest)
    | rest => (false, rest)
  match unsigned with
  | [] => .error (.before .endInValue [])
  | c :: rest =>
    if !c.isDigit then .error (.on .badNumber (c :: rest))
    else
      let digits := (c :: rest).takeWhile Char.isDigit
      let after := (c :: rest).drop digits.length
      let size := Decimal.natural 0 digits
      -- An exponent beyond 31 bits is not scaled at all.
      if 0x8000_0000 ≤ size then
        if significand != 0 && !down then
          -- The fault stands before the digit that went too far.
          .error (.before .numberRange (overflowing 0 (c :: rest)))
        else .ok (.float (if negative then -0.0 else 0.0), after)
      else
        let exponent := if down then max (start - size) (-0x8000_0000) else min (start + size) 0x7FFF_FFFF
        floatOf negative significand exponent after
where
  /-- The digits from the one on that takes an exponent beyond 31 bits. -/
  overflowing (value : Nat) : List Char → List Char
    | [] => []
    | c :: rest =>
      let next := value * 10 + (c.toNat - '0'.toNat)
      if 0x8000_0000 ≤ next then c :: rest else overflowing next rest

/-- Reads the digits after a point. -/
def readFraction (negative : Bool) (significand : Nat) (start : Int) (text : List Char) :
    Except Fault (Number × List Char) :=
  let (value, rest) := takeDigits significand text
  let exponent := start - ((text.length - rest.length : Nat) : Int)
  let beyond := rest.takeWhile Char.isDigit
  let after := rest.drop beyond.length
  match text with
  | [] => .error (.before .endInValue [])
  | c :: others =>
    if !c.isDigit then .error (.on .badNumber (c :: others))
    else match after with
      | 'e' :: tail => readExponent negative value exponent tail
      | 'E' :: tail => readExponent negative value exponent tail
      | _ => floatOf negative value exponent after

/-- Reads what may follow the digits before the point. -/
def readScale (negative : Bool) (significand : Nat) (exponent : Int) : List Char →
    Except Fault (Number × List Char)
  | '.' :: rest => readFraction negative significand exponent rest
  | 'e' :: rest => readExponent negative significand exponent rest
  | 'E' :: rest => readExponent negative significand exponent rest
  | rest =>
    if exponent != 0 then floatOf negative significand exponent rest
    else if !negative then .ok (.integer significand, rest)
    else if significand == 0 || 0x8000_0000_0000_0000 < significand then
      -- A negative zero, and what is below the smallest signed number, are not kept whole.
      .ok (.float (-significand.toUInt64.toFloat), rest)
    else .ok (.integer (-(significand : Int)), rest)

/-- Reads a number after its sign. -/
def readNumber (negative : Bool) : Reader Number
  | [] => .error (.before .endInValue [])
  | '0' :: rest =>
    match rest with
    | c :: others =>
      if c.isDigit then .error (.on .badNumber (c :: others)) else readScale negative 0 0 rest
    | [] => readScale negative 0 0 rest
  | c :: rest =>
    if !c.isDigit then .error (.on .badNumber (c :: rest))
    else
      -- Digits beyond 64 bits only count for the exponent.
      let (value, tail) := takeDigits 0 (c :: rest)
      let beyond := tail.takeWhile Char.isDigit
      readScale negative value beyond.length (tail.drop beyond.length)

/-! ### Values -/

/-- Wants a colon after any space. -/
def readColon (text : List Char) : Except Fault (List Char) :=
  match skipSpace text with
  | ':' :: rest => .ok rest
  | [] => .error (.before .endInObject [])
  | c :: rest => .error (.on .colonWanted (c :: rest))

/-- After an item of an array: whether another follows, and where it starts. -/
def nextItem (first : Bool) (text : List Char) : Except Fault (Bool × List Char) :=
  match skipSpace text with
  | [] => .error (.before .endInList [])
  | ']' :: rest => .ok (false, rest)
  | c :: rest =>
    if first then .ok (true, c :: rest)
    else if c != ',' then .error (.on .listCommaWanted (c :: rest))
    else match skipSpace rest with
      | [] => .error (.before .endInValue [])
      | ']' :: after => .error (.on .trailingComma (']' :: after))
      | after => .ok (true, after)

/-- After a member of an object: whether another follows, and the characters of its key. -/
def nextKey (first : Bool) (text : List Char) : Except Fault (Bool × List Char) :=
  match skipSpace text with
  | [] => .error (.before .endInObject [])
  | '}' :: rest => .ok (false, rest)
  | '"' :: rest => if first then .ok (true, rest) else .error (.on .objectCommaWanted ('"' :: rest))
  | c :: rest =>
    if first then .error (.on .keyNotString (c :: rest))
    else if c != ',' then .error (.on .objectCommaWanted (c :: rest))
    else match skipSpace rest with
      | [] => .error (.before .endInValue [])
      | '"' :: after => .ok (true, after)
      | '}' :: after => .error (.on .trailingComma ('}' :: after))
      | after => .error (.on .keyNotString after)

/-- The levels of nesting at which reading gives up. -/
def depthLimit : Nat := 128

mutual

/-- Reads a value of any kind; the fuel bounds the number of values, the depth their nesting. -/
def readValue (fuel depth : Nat) (text : List Char) : Except Fault (Json × List Char) :=
  match fuel with
  | 0 => .error (.before .endInValue text)
  | fuel + 1 =>
    match skipSpace text with
    | [] => .error (.before .endInValue [])
    | 'n' :: rest => (readWord "ull".toList rest).map fun (_, after) => (.null, after)
    | 't' :: rest => (readWord "rue".toList rest).map fun (_, after) => (.bool true, after)
    | 'f' :: rest => (readWord "alse".toList rest).map fun (_, after) => (.bool false, after)
    | '"' :: rest => (readString rest).map fun (value, after) => (.string (.ofList value), after)
    | '-' :: rest => (readNumber true rest).map fun (value, after) => (.number value, after)
    | '[' :: rest =>
      if depth ≤ 1 then .error (.on .tooDeep ('[' :: rest))
      else (readItems fuel (depth - 1) true rest).map fun (items, after) => (.array items, after)
    | '{' :: rest =>
      if depth ≤ 1 then .error (.on .tooDeep ('{' :: rest))
      else (readMembers fuel (depth - 1) true [] rest).map fun (members, after) => (.object members, after)
    | c :: rest =>
      if c.isDigit then (readNumber false (c :: rest)).map fun (value, after) => (.number value, after)
      else .error (.on .valueWanted (c :: rest))

/-- Reads the items of an array up to its end. -/
def readItems (fuel depth : Nat) (first : Bool) (text : List Char) :
    Except Fault (List Json × List Char) :=
  match fuel with
  | 0 => .error (.before .endInList text)
  | fuel + 1 => do
    match ← nextItem first text with
    | (false, after) => return ([], after)
    | (true, rest) =>
      let (item, after) ← readValue fuel depth rest
      let (others, done) ← readItems fuel depth false after
      return (item :: others, done)

/-- Reads the members of an object up to its end, into those already read. -/
def readMembers (fuel depth : Nat) (first : Bool) (members : List (String × Json))
    (text : List Char) : Except Fault (List (String × Json) × List Char) :=
  match fuel with
  | 0 => .error (.before .endInObject text)
  | fuel + 1 => do
    match ← nextKey first text with
    | (false, after) => return (members, after)
    | (true, rest) =>
      let (key, afterKey) ← readString rest
      let (value, after) ← readValue fuel depth (← readColon afterKey)
      readMembers fuel depth false (insertSorted (.ofList key) value members) after

end

/-- Wants the end of the text after any space. -/
def readEnd {α : Type} (read : α × List Char) : Except Fault α :=
  match skipSpace read.2 with
  | [] => .ok read.1
  | c :: rest => .error (.on .trailingText (c :: rest))

/-- The value that a whole text writes. -/
def ofChars? (text : List Char) : Except Fault Json :=
  -- Every value and every end of a list takes a character at least.
  readValue (2 * text.length + 2) depthLimit text >>= readEnd

/-- The value that a whole text writes. -/
def parse (text : String) : Except Fault Json :=
  ofChars? text.toList

/-! ### Values passed over -/

/-- Passes over an exponent after its mark. -/
def skipExponent (text : List Char) : Except Fault (List Char) :=
  let unsigned := match text with
    | '+' :: rest => rest
    | '-' :: rest => rest
    | rest => rest
  match unsigned with
  | [] => .error (.before .badNumber [])
  | c :: rest =>
    if c.isDigit then .ok (rest.dropWhile Char.isDigit) else .error (.on .badNumber (c :: rest))

/-- Passes over what may follow the digits before the point. -/
def skipScale : List Char → Except Fault (List Char)
  | '.' :: rest =>
    match rest with
    | [] => .error (.before .badNumber [])
    | c :: others =>
      if !c.isDigit then .error (.on .badNumber (c :: others))
      else match others.dropWhile Char.isDigit with
        | 'e' :: tail => skipExponent tail
        | 'E' :: tail => skipExponent tail
        | after => .ok after
  | 'e' :: rest => skipExponent rest
  | 'E' :: rest => skipExponent rest
  | rest => .ok rest

/-- Passes over a number after its sign, however large. -/
def skipNumber : List Char → Except Fault (List Char)
  | [] => .error (.before .badNumber [])
  | '0' :: rest =>
    match rest with
    | c :: others => if c.isDigit then .error (.on .badNumber (c :: others)) else skipScale rest
    | [] => .ok []
  | c :: rest =>
    if c.isDigit then skipScale (rest.dropWhile Char.isDigit) else .error (.on .badNumber (c :: rest))

/-- Passes over a string up to its closing mark; the halves of pairs are not looked at. -/
def skipString : List Char → Except Fault (List Char)
  | [] => .error (.before .endInString [])
  | '"' :: rest => .ok rest
  | '\\' :: 'u' :: a :: b :: c :: d :: rest =>
    if (hexQuad? a b c d).isSome then skipString rest
    else .error (badQuad (a :: b :: c :: d :: rest))
  | '\\' :: 'u' :: rest => .error (badQuad rest)
  | '\\' :: [] => .error (.before .endInString [])
  | '\\' :: c :: rest =>
    if (shortEscape? c).isSome then skipString rest else .error (.on .badEscape (c :: rest))
  | c :: rest =>
    if c.toNat < 0x20 then .error (.before .controlCharacter (c :: rest)) else skipString rest

mutual

/-- Passes over a value of any kind and any depth; the fuel bounds the number of values. -/
def skipValue (fuel : Nat) (text : List Char) : Except Fault (List Char) :=
  match fuel with
  | 0 => .error (.before .endInValue text)
  | fuel + 1 =>
    match skipSpace text with
    | [] => .error (.before .endInValue [])
    | 'n' :: rest => (readWord "ull".toList rest).map (·.2)
    | 't' :: rest => (readWord "rue".toList rest).map (·.2)
    | 'f' :: rest => (readWord "alse".toList rest).map (·.2)
    | '"' :: rest => skipString rest
    | '-' :: rest => skipNumber rest
    | '[' :: rest =>
      match skipSpace rest with
      | [] => .error (.before .endInList [])
      | ']' :: after => .ok after
      | items => skipItems fuel items
    | '{' :: rest =>
      match skipSpace rest with
      | [] => .error (.before .endInObject [])
      | '}' :: after => .ok after
      | members => skipMembers fuel members
    | c :: rest =>
      if c.isDigit then skipNumber (c :: rest) else .error (.on .valueWanted (c :: rest))

/-- Passes over the items of an array, of which there is one at least. -/
def skipItems (fuel : Nat) (text : List Char) : Except Fault (List Char) :=
  match fuel with
  | 0 => .error (.before .endInList text)
  | fuel + 1 => do
    match skipSpace (← skipValue fuel text) with
    | [] => throw (.before .endInList [])
    | ',' :: rest => skipItems fuel rest
    | ']' :: rest => return rest
    | c :: rest => throw (.on .listCommaWanted (c :: rest))

/-- Passes over the members of an object, of which there is one at least. -/
def skipMembers (fuel : Nat) (text : List Char) : Except Fault (List Char) :=
  match fuel with
  | 0 => .error (.before .endInObject text)
  | fuel + 1 =>
    match skipSpace text with
    | [] => .error (.before .endInObject [])
    | '"' :: rest => do
      match skipSpace (← skipValue fuel (← readColon (← skipString rest))) with
      | [] => throw (.before .endInObject [])
      | ',' :: after => skipMembers fuel after
      | '}' :: after => return after
      | c :: after => throw (.on .objectCommaWanted (c :: after))
    | c :: rest => .error (.on .keyNotString (c :: rest))

end

/-! ### Values of one kind -/

/-- What stands where another kind of value was wanted, told after it where it is short. -/
def mismatch {α : Type} (wanted : String) (text : List Char) : Except Fault α :=
  let told (found : Found) (rest : List Char) : Except Fault α :=
    .error (.before (.mismatch found wanted) rest)
  match text with
  | [] => .error (.before .endInValue [])
  | 'n' :: rest => do let (_, after) ← readWord "ull".toList rest; told .null after
  | 't' :: rest => do let (_, after) ← readWord "rue".toList rest; told (.bool true) after
  | 'f' :: rest => do let (_, after) ← readWord "alse".toList rest; told (.bool false) after
  | '"' :: rest => do let (value, after) ← readString rest; told (.string (.ofList value)) after
  | '-' :: rest => do let (value, after) ← readNumber true rest; told (.number value) after
  | '[' :: rest => told .sequence ('[' :: rest)
  | '{' :: rest => told .map ('{' :: rest)
  | c :: rest =>
    if c.isDigit then do let (value, after) ← readNumber false (c :: rest); told (.number value) after
    else .error (.on .valueWanted (c :: rest))

/-- Reads a string, and nothing else. -/
def readText (wanted : String) (text : List Char) : Except Fault (String × List Char) :=
  match skipSpace text with
  | '"' :: rest => (readString rest).map fun (value, after) => (.ofList value, after)
  | other => mismatch wanted other

/-- Reads null, and nothing else. -/
def readNull (text : List Char) : Except Fault (List Char) :=
  match skipSpace text with
  | 'n' :: rest => (readWord "ull".toList rest).map (·.2)
  | other => mismatch "unit" other

/-- The meaning of a word, or the fault that no such word is known. -/
def knownWord {α : Type} (known : List (String × α)) (word : String) (rest : List Char) :
    Except Fault α :=
  match known.lookup word with
  | some meaning => .ok meaning
  | none => .error (.before (.unknownWord word (known.map (·.1))) rest)

/-- Reads one of several known words: a string, or an object with the word as its only key and null. -/
def readKnown {α : Type} (known : List (String × α)) (text : List Char) :
    Except Fault (α × List Char) :=
  match skipSpace text with
  | [] => .error (.before .endInValue [])
  | '"' :: rest => do
    let (word, after) ← readString rest
    return (← knownWord known (.ofList word) after, after)
  | '{' :: rest => do
    let (word, afterKey) ← readText "variant identifier" rest
    let meaning ← knownWord known word afterKey
    match skipSpace (← readNull (← readColon afterKey)) with
    | '}' :: after => return (meaning, after)
    | [] => throw (.before .endInObject [])
    | other => throw (.before .valueWanted other)
  | c :: rest => .error (.on .valueWanted (c :: rest))

end Placard.Json
