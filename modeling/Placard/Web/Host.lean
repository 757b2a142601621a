import Placard.Decimal.Reading
import Placard.Json.Reader
import Placard.Text.Utf8

/-! Hosts of web addresses: numbers of four bytes, numbers of sixteen bytes, and other names. -/

namespace Placard.Web

/-- Why a text is no web address. -/
inductive UrlFault
  | noScheme
  | emptyHost
  | badPort
  | badAddress4
  | badAddress6
  | badDomain
  | badHostCharacter
deriving DecidableEq, Repr, Inhabited

/-- The wording of a fault in a web address. -/
def UrlFault.message : UrlFault → String
  | noScheme => "relative URL without a base"
  | emptyHost => "empty host"
  | badPort => "invalid port number"
  | badAddress4 => "invalid IPv4 address"
  | badAddress6 => "invalid IPv6 address"
  | badDomain => "invalid international domain name"
  | badHostCharacter => "invalid domain character"

/-- The host of a web address. -/
inductive Host
  | address4 (value : Nat)
  | address6 (pieces : List Nat)
  | name (text : String)
deriving DecidableEq, Repr, Inhabited

/-- A number in a base up to sixteen, all of whose digits are below the base. -/
def digitsIn? (base : Nat) (digits : List Char) : Option Nat :=
  digits.foldlM (fun value c => do
    let digit ← Json.hexValue? c
    if digit < base then some (value * base + digit) else none) 0

/-! ### Addresses of four bytes -/

/-- A part of a four-byte address: decimal, octal after a zero, hexadecimal after `0x`. -/
def part4? : List Char → Option Nat
  | [] => none
  | '0' :: 'x' :: digits => digitsIn? 16 digits
  | '0' :: 'X' :: digits => digitsIn? 16 digits
  | ['0'] => some 0
  | '0' :: digits => digitsIn? 8 digits
  | digits => digitsIn? 10 digits

/-- A name whose last part is a number has to be an address of four bytes. -/
def endsInNumber (host : List Char) : Bool :=
  let last := match (Text.pieces (· == '.') host).reverse with
    | [] :: before :: _ => before
    | last :: _ => last
    | [] => []
  (!last.isEmpty && last.all Char.isDigit) || (part4? last).isSome

/-- The number that an address of four bytes denotes; its last part fills all remaining bytes. -/
def address4? (host : List Char) : Option Nat := do
  let parts := Text.pieces (· == '.') host
  let used := if parts.getLast? == some [] then parts.dropLast else parts
  if 4 < used.length then none
  else
    let numbers ← used.mapM part4?
    let last ← numbers.getLast?
    let before := numbers.dropLast
    if Nat.pow 256 (4 - before.length) ≤ last || before.any (255 < ·) then none
    else
      some (last + before.zipIdx.foldl (fun sum (part, index) => sum + part * Nat.pow 256 (3 - index)) 0)

/-- An address of four bytes in decimal. -/
def address4Text (value : Nat) : String :=
  Text.joinWith "." ([3, 2, 1, 0].map fun place => toString (value / Nat.pow 256 place % 256))

/-! ### Addresses of sixteen bytes -/

/-- A piece of a sixteen-byte address: one to four hexadecimal digits. -/
private def piece6? (digits : List Char) : Option Nat :=
  if digits.isEmpty || 4 < digits.length then none else digitsIn? 16 digits

/-- Two pieces written as an address of four bytes, in strict decimal. -/
private def tail4? (text : List Char) : Option (List Nat) := do
  let parts := Text.pieces (· == '.') text
  if parts.length != 4 then none
  else
    let numbers ← parts.mapM fun part => do
      if 1 < part.length && part.head? == some '0' then none
      else (Decimal.digits? part).filter (· ≤ 255)
    match numbers with
    | [a, b, c, d] => some [a * 256 + b, c * 256 + d]
    | _ => none

/-- The pieces of a part of an address; only the last may be an address of four bytes. -/
private def pieces6? : List (List Char) → Option (List Nat)
  | [] => some []
  | [last] => if last.contains '.' then tail4? last else (piece6? last).map ([·])
  | first :: others => do return (← piece6? first) :: (← pieces6? others)

/-- The texts before and after the first pair of colons. -/
private def cutAtGap : List Char → Option (List Char × List Char)
  | ':' :: ':' :: rest => some ([], rest)
  | c :: rest => (cutAtGap rest).map fun (before, after) => (c :: before, after)
  | [] => none

/-- The pieces on one side of a gap. -/
private def side6? (text : List Char) : Option (List Nat) :=
  if text.isEmpty then some [] else pieces6? (Text.pieces (· == ':') text)

/-- The eight pieces of an address of sixteen bytes; a pair of colons stands for missing zeros. -/
def address6? (text : List Char) : Option (List Nat) :=
  match cutAtGap text with
  | none => (side6? text).filter (·.length == 8)
  | some (before, after) => do
    -- An address of four bytes can only stand at the very end.
    if before.contains '.' then none
    else
      let left ← side6? before
      let right ← side6? after
      if 7 < left.length + right.length then none
      else some (left ++ List.replicate (8 - left.length - right.length) 0 ++ right)

/-- The start and the length of the longest run of zeros, the first of several. -/
private def longestZeros (pieces : List Nat) : Nat × Nat :=
  let runAt (start : Nat) := ((pieces.drop start).takeWhile (· == 0)).length
  (List.range pieces.length).foldl
    (fun best start => if best.2 < runAt start then (start, runAt start) else best) (0, 0)

/-- An address of sixteen bytes; its longest run of two or more zeros is left out. -/
def address6Text (pieces : List Nat) : String :=
  let hex (part : List Nat) :=
    Text.joinWith ":" (part.map fun piece => .ofList (Nat.toDigits 16 piece))
  let (start, length) := longestZeros pieces
  if length < 2 then hex pieces
  else hex (pieces.take start) ++ "::" ++ hex (pieces.drop (start + length))

/-! ### Any host -/

/-- The bytes of a text with every percent sign and its two digits read as one byte. -/
def percentDecoded : List UInt8 → List UInt8
  | 0x25 :: a :: b :: rest =>
    match Json.hexValue? (.ofNat a.toNat), Json.hexValue? (.ofNat b.toNat) with
    | some high, some low => .ofNat (high * 16 + low) :: percentDecoded rest
    | _, _ => 0x25 :: percentDecoded (a :: b :: rest)
  | byte :: rest => byte :: percentDecoded rest
  | [] => []
termination_by bytes => bytes.length

/-- A byte as a percent sign and two digits. -/
def percentByte (byte : UInt8) : List Char :=
  let digit (value : Nat) := (Nat.digitChar value).toUpper
  ['%', digit (byte.toNat / 16), digit (byte.toNat % 16)]

/-- A text in which the characters that must not stand for themselves are written as bytes. -/
def percentEncoded (escapes : Char → Bool) (text : List Char) : List Char :=
  text.flatMap fun c =>
    if 0x80 ≤ c.toNat || escapes c then (Text.bytes [c]).flatMap percentByte else [c]

/-- The text of a host in an address. -/
def Host.text : Host → String
  | address4 value => address4Text value
  | address6 pieces => "[" ++ address6Text pieces ++ "]"
  | name text => text

end Placard.Web
