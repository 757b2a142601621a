import Placard.Unicode.Category
import Placard.Unicode.Fold
import Placard.Web.Host

/-! Names of hosts: their letters of any script, and the ASCII text that stands for them. -/

namespace Placard.Web

/-! ### Labels written in ASCII -/

/-- The digits of the ASCII form of a label, from zero on. -/
private def puny (value : Nat) : Char :=
  if value < 26 then .ofNat ('a'.toNat + value) else .ofNat ('0'.toNat + value - 26)

/-- The value of a digit of the ASCII form. -/
private def punyValue? (c : Char) : Option Nat :=
  if c.isAlpha then some (c.toLower.toNat - 'a'.toNat)
  else if c.isDigit then some (c.toNat - '0'.toNat + 26)
  else none

/-- Brings the next difference into the range of the bias; the fuel bounds the number of steps. -/
private def shrink (fuel delta places : Nat) : Nat :=
  match fuel with
  | 0 => places
  | fuel + 1 =>
    if delta ≤ 455 then places + 36 * delta / (delta + 38) else shrink fuel (delta / 35) (places + 36)

/-- The bias after a difference, given how many characters are placed by now. -/
private def adapt (delta count : Nat) (first : Bool) : Nat :=
  let halved := if first then delta / 700 else delta / 2
  shrink 64 (halved + halved / count) 0

/-- The least digit at a place that ends a number. -/
private def threshold (place bias : Nat) : Nat :=
  if place ≤ bias then 1 else if bias + 26 ≤ place then 26 else place - bias

/-- The digits of a difference; the fuel bounds their number. -/
private def punyNumber (fuel value place bias : Nat) : List Char :=
  match fuel with
  | 0 => []
  | fuel + 1 =>
    let least := threshold place bias
    if value < least then [puny value]
    else
      let base := 36 - least
      puny (least + (value - least) % base) ::
        punyNumber fuel ((value - least) / base) (place + 36) bias

/-- Where the writing of a label stands. -/
private structure PunyState where
  delta : Nat
  bias : Nat
  placed : Nat
  first : Bool
  written : List Char

/-- Writes every place at which one character stands. -/
private def punyPass (code : Nat) (label : List Char) (state : PunyState) : PunyState :=
  label.foldl (fun state c =>
    if c.toNat < code then { state with delta := state.delta + 1 }
    else if c.toNat == code then
      { delta := 0
        bias := adapt state.delta (state.placed + 1) state.first
        placed := state.placed + 1
        first := false
        written := state.written ++ punyNumber 64 state.delta 36 state.bias }
    else state) state

/-- Writes the characters of a label from the least on; the fuel bounds how many differ. -/
private def punyLoop (fuel code : Nat) (label : List Char) (state : PunyState) : PunyState :=
  match fuel with
  | 0 => state
  | fuel + 1 =>
    match ((label.map Char.toNat).filter (code ≤ ·)).min? with
    | none => state
    | some next =>
      let moved := { state with delta := state.delta + (next - code) * (state.placed + 1) }
      let passed := punyPass next label moved
      punyLoop fuel (next + 1) label { passed with delta := passed.delta + 1 }

/-- The ASCII form of a label: its ASCII characters, and where the others stand between them. -/
def punyEncode (label : List Char) : List Char :=
  let plain := label.filter (·.toNat < 0x80)
  let start := if plain.isEmpty then [] else plain ++ ['-']
  (punyLoop (label.length + 1) 0x80 label ⟨0, 72, plain.length, true, start⟩).written

/-- Reads one difference; the fuel bounds the number of its digits. -/
private def punyDelta? (fuel weight place bias : Nat) : List Char → Option (Nat × List Char)
  | [] => none
  | c :: rest =>
    match fuel with
    | 0 => none
    | fuel + 1 => do
      let digit ← punyValue? c
      let least := threshold place bias
      if digit < least then return (digit * weight, rest)
      else
        let (more, after) ← punyDelta? fuel (weight * (36 - least)) (place + 36) bias rest
        return (digit * weight + more, after)

/-- Reads the places of the other characters into a label. -/
private def punyInsert? (fuel code index bias : Nat) (first : Bool) (label digits : List Char) :
    Option (List Char) :=
  match fuel with
  | 0 => none
  | fuel + 1 =>
    if digits.isEmpty then some label
    else do
      let (delta, rest) ← punyDelta? 64 1 36 bias digits
      let count := label.length + 1
      let total := index + delta
      let next := code + total / count
      if 0x10FFFF < next || (0xD800 ≤ next && next ≤ 0xDFFF) then none
      else
        let place := total % count
        let grown := label.take place ++ .ofNat next :: label.drop place
        punyInsert? fuel next (place + 1) (adapt delta count first) false grown rest

/-- The label that an ASCII form stands for. -/
def punyDecode? (text : List Char) : Option (List Char) :=
  let reversed := text.reverse
  let digits := (reversed.takeWhile (· != '-')).reverse
  let plain := (reversed.dropWhile (· != '-')).drop 1 |>.reverse
  if digits.isEmpty then none
  else punyInsert? (text.length + 1) 0x80 0 72 true plain digits

/-! ### Names -/

/-- The characters that a name never holds. -/
def isRefused (c : Char) : Bool :=
  c.toNat ≤ 0x20 || c.toNat == 0x7F || "%#/:<>?@[\\]^|".toList.contains c

/-- The characters that a name leaves out. -/
private def isIgnored (c : Char) : Bool :=
  c.toNat == 0xAD || c.toNat == 0x200B || c.toNat == 0x2060 || c.toNat == 0xFEFF
    || (0xFE00 ≤ c.toNat && c.toNat ≤ 0xFE0F)

/-- The characters that no name may hold outside ASCII: those without a letter, mark, number or sign. -/
private def unnamed : CharSet :=
  Unicode.joined ["cc", "cs", "co", "cn", "zl", "zp", "zs"]

/-- The lower-case letter of a letter outside ASCII. -/
private def lowered (c : Char) : Char :=
  match Unicode.foldClasses.find? (·.contains c.toNat) with
  | none => c
  | some others =>
    -- Of the letters that differ in case only, the lower-case one is wanted.
    let lower := (Unicode.generalCategory? "ll").getD .empty
    if lower.contains c then c
    else match others.find? fun code => 0x80 ≤ code && lower.contains (.ofNat code) with
      | some code => .ofNat code
      | none => match others.find? fun code => lower.contains (.ofNat code) with
        | some code => .ofNat code
        | none => c

/-- The characters of a name as they count: small letters, and one kind of dot. -/
private def mapped (c : Char) : Char :=
  if c.toNat < 0x80 then c.toLower
  else if c == '。' || c == '．' || c == '｡' then '.'
  else if 0xFF01 ≤ c.toNat && c.toNat ≤ 0xFF5E then (Char.ofNat (c.toNat - 0xFEE0)).toLower
  else lowered c

/-- The ASCII form of one label. -/
private def asciiLabel? (label : List Char) : Option (List Char) :=
  match Text.dropPrefix? "xn--".toList label with
  | some coded =>
    match punyDecode? coded with
    | some decoded => if decoded.all (·.toNat < 0x80) || decoded.any unnamed.contains then none else some label
    | none => none
  | none =>
    if label.all (·.toNat < 0x80) then some label
    else if label.any fun c => 0x80 ≤ c.toNat && unnamed.contains c then none
    else some ("xn--".toList ++ punyEncode label)

/-- The ASCII text that stands for a name of a host. -/
def domainToAscii? (name : List Char) : Option (List Char) := do
  let letters := (name.filter (!isIgnored ·)).map mapped
  if letters.any isRefused || letters.contains Text.replacement then none
  else
    let labels ← (Text.pieces (· == '.') letters).mapM asciiLabel?
    return (Text.joinWith "." (labels.map .ofList)).toList

/-- The host that a text between brackets names. -/
private def bracketed (text : List Char) : Except UrlFault Host :=
  if text.getLast? != some ']' then .error .badAddress6
  else match address6? text.tail.dropLast with
    | some pieces => .ok (.address6 pieces)
    | none => .error .badAddress6

/-- The host that a text names in an address of the web. -/
def Host.parse (text : List Char) : Except UrlFault Host :=
  if text.head? == some '[' then bracketed text
  else match domainToAscii? (Text.decodeLossy (percentDecoded (Text.bytes text))) with
    | none => .error .badDomain
    | some [] => .error .emptyHost
    | some ascii =>
      if endsInNumber ascii then
        match address4? ascii with
        | some value => .ok (.address4 value)
        | none => .error .badAddress4
      else .ok (.name (.ofList ascii))

/-- The host that a text names in an address of another kind. -/
def Host.parseOpaque (text : List Char) : Except UrlFault Host :=
  if text.head? == some '[' then bracketed text
  else if text.any fun c => c == '\x00' || "\t\n\r #/:<>?@[\\]^|".toList.contains c then
    .error .badHostCharacter
  else .ok (.name (.ofList (percentEncoded (fun c => c.toNat < 0x20 || c.toNat == 0x7F) text)))

end Placard.Web
