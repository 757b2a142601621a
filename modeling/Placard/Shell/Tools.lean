import Placard.Decimal.Reading
import Placard.Text.Utf8

/-! Small programs that turn arguments and input into output. -/

namespace Placard.Shell

/-- Bytes of a text. -/
def bytesOf (text : String) : List UInt8 := Text.bytes text.toList

/-- The value of an octal digit. -/
private def octal? (c : Char) : Option Nat :=
  if '0' ≤ c ∧ c ≤ '7' then some (c.toNat - 48) else none

/-- The byte of up to a number of octal digits, and what follows them. -/
private def octalByte (limit value : Nat) (text : List Char) : UInt8 × List Char :=
  match limit, text with
  | limit + 1, c :: rest =>
    match octal? c with
    | some digit => octalByte limit (value * 8 + digit) rest
    | none => (.ofNat value, c :: rest)
  | _, rest => (.ofNat value, rest)

/-- The byte that an escape of one letter stands for. -/
private def controlByte? : Char → Option UInt8
  | 'a' => some 7
  | 'b' => some 8
  | 'f' => some 12
  | 'n' => some 10
  | 'r' => some 13
  | 't' => some 9
  | 'v' => some 11
  | '\\' => some 92
  | _ => none

/-- The bytes of a text with escapes; a zero may stand before the digits of an octal one.

The second part tells that an escape ended all output. -/
def escapedBytes (zeroFirst : Bool) (fuel : Nat) (text : List Char) : List UInt8 × Bool :=
  match fuel, text with
  | fuel + 1, '\\' :: c :: rest =>
    if c == 'c' && zeroFirst then ([], true)
    else match controlByte? c with
      | some byte =>
        let (more, stopped) := escapedBytes zeroFirst fuel rest
        (byte :: more, stopped)
      | none =>
        let digits :=
          if zeroFirst && c == '0' then some rest
          else if (octal? c).isSome then some (c :: rest) else none
        match digits with
        | some start =>
          let (byte, after) := octalByte 3 0 start
          let (more, stopped) := escapedBytes zeroFirst fuel after
          (byte :: more, stopped)
        | none =>
          let (more, stopped) := escapedBytes zeroFirst fuel (c :: rest)
          (92 :: more, stopped)
  | fuel + 1, c :: rest =>
    let (more, stopped) := escapedBytes zeroFirst fuel rest
    (Text.bytes [c] ++ more, stopped)
  | _, _ => ([], false)

/-- Writes arguments with blanks between them. -/
def echo (arguments : List String) : List UInt8 :=
  let (newline, words) := match arguments with
    | "-n" :: rest => (false, rest)
    | all => (true, all)
  let line := (Text.joinWith " " words).toList
  let (written, stopped) := escapedBytes true line.length line
  if newline && !stopped then written ++ [10] else written

/-- Fills a text with blanks or zeros up to a width. -/
private def padded (left zero : Bool) (width : Nat) (text : List Char) : List Char :=
  let missing := width - text.length
  if left then text ++ List.replicate missing ' '
  else if zero then
    match text with
    | '-' :: digits => '-' :: List.replicate missing '0' ++ digits
    | digits => List.replicate missing '0' ++ digits
  else List.replicate missing ' ' ++ text

/-- A directive of a format: its flags, its width, its precision and its letter. -/
private structure Directive where
  left : Bool
  zero : Bool
  plus : Bool
  width : Nat
  precision : Option Nat
  letter : Char

/-- Reads a directive behind its percent sign. -/
private def readDirective? (text : List Char) : Option (Directive × List Char) :=
  let flags := text.takeWhile fun c => c == '-' || c == '0' || c == '+' || c == ' ' || c == '#'
  let afterFlags := text.drop flags.length
  let width := afterFlags.takeWhile Char.isDigit
  let afterWidth := afterFlags.drop width.length
  let (precision, final) := match afterWidth with
    | '.' :: rest =>
      let digits := rest.takeWhile Char.isDigit
      (some (Decimal.natural 0 digits), rest.drop digits.length)
    | rest => (none, rest)
  match final with
  | letter :: rest =>
    some (⟨flags.contains '-', flags.contains '0', flags.contains '+', Decimal.natural 0 width,
      precision, letter⟩, rest)
  | [] => none

/-- What a directive makes of an argument. -/
private def formatOne (directive : Directive) (argument : String) : List UInt8 :=
  let number := (Decimal.signedWord? (argument.toList.dropWhile (· == ' '))).getD 0
  let pad (text : List Char) :=
    Text.bytes (padded directive.left directive.zero directive.width text)
  let cut (text : List Char) := match directive.precision with
    | some limit => text.take limit
    | none => text
  let signed := (if directive.plus && 0 ≤ number then "+" else "") ++ toString number
  match directive.letter with
  | 's' => Text.bytes (padded directive.left false directive.width (cut argument.toList))
  | 'd' => pad signed.toList
  | 'i' => pad signed.toList
  | 'u' => pad (toString number.natAbs).toList
  | 'x' => pad (Nat.toDigits 16 number.natAbs)
  | 'X' => pad ((Nat.toDigits 16 number.natAbs).map Char.toUpper)
  | 'o' => pad (Nat.toDigits 8 number.natAbs)
  | 'c' => Text.bytes (argument.toList.take 1)
  | 'b' => (escapedBytes true argument.length argument.toList).1
  | _ => []

/-- Writes a format once; gives the output, the arguments that are left, and whether any was used. -/
private def formatPass (fuel : Nat) (format : List Char) (arguments : List String) (used : Bool) :
    List UInt8 × List String × Bool :=
  match fuel, format with
  | fuel + 1, '%' :: '%' :: rest =>
    let (more, left, any) := formatPass fuel rest arguments used
    (37 :: more, left, any)
  | fuel + 1, '%' :: rest =>
    match readDirective? rest with
    | none => ([], arguments, used)
    | some (directive, after) =>
      let (more, left, any) := formatPass fuel after arguments.tail true
      (formatOne directive (arguments.head?.getD "") ++ more, left, any)
  | fuel + 1, '\\' :: rest =>
    let escape := match rest with
      | c :: _ => if (octal? c).isSome then (rest.takeWhile fun d => (octal? d).isSome).take 3 else [c]
      | [] => []
    let (written, _) := escapedBytes false 4 ('\\' :: escape)
    let (more, left, any) := formatPass fuel (rest.drop escape.length) arguments used
    (written ++ more, left, any)
  | fuel + 1, c :: rest =>
    let (more, left, any) := formatPass fuel rest arguments used
    (Text.bytes [c] ++ more, left, any)
  | _, _ => ([], arguments, used)

/-- Writes a format again and again until all arguments are used; the fuel bounds the passes. -/
def printFormat (fuel : Nat) (format : List Char) (arguments : List String) : List UInt8 :=
  match fuel with
  | 0 => []
  | fuel + 1 =>
    let (written, left, used) := formatPass format.length format arguments false
    if used && !left.isEmpty then written ++ printFormat fuel format left else written

/-- The bytes of a set of characters with ranges and escapes. -/
private def setBytes (fuel : Nat) : List UInt8 → List UInt8
  | low :: 45 :: high :: rest =>
    match fuel with
    | 0 => []
    | fuel + 1 =>
      ((List.range (high.toNat + 1 - low.toNat)).map fun step => .ofNat (low.toNat + step)) ++
        setBytes fuel rest
  | byte :: rest =>
    match fuel with
    | 0 => []
    | fuel + 1 => byte :: setBytes fuel rest
  | [] => []

/-- The bytes that a set of characters names. -/
private def namedBytes (set : String) : List UInt8 :=
  let bytes := (escapedBytes false set.length set.toList).1
  setBytes bytes.length bytes

/-- Exchanges or deletes bytes; nothing is answered for arguments that are not understood. -/
def translate? (arguments : List String) (input : List UInt8) : Option (List UInt8) :=
  match arguments with
  | ["-d", set] =>
    let bytes := namedBytes set
    some (input.filter (!bytes.contains ·))
  | [first, second] =>
    let sources := namedBytes first
    let targets := namedBytes second
    let last := targets.getLast?.getD 0
    some (input.map fun byte =>
      match sources.idxOf? byte with
      | some index => targets.getD index last
      | none => byte)
  | _ => none

/-- The lines of bytes, each with the byte that ends it. -/
def byteLines (fuel : Nat) (bytes : List UInt8) : List (List UInt8) :=
  match fuel, bytes with
  | fuel + 1, first :: rest =>
    let line := (first :: rest).takeWhile (· != 10)
    let after := (first :: rest).drop line.length
    (line ++ after.take 1) :: byteLines fuel (after.drop 1)
  | _, _ => []

/-- The number of lines or bytes that options ask for, whether bytes are meant, and what is left. -/
def readCountOption : List String → Nat × Bool × List String
  | "-n" :: count :: rest => (((Decimal.digits? count.toList).getD 10), false, rest)
  | "-c" :: count :: rest => (((Decimal.digits? count.toList).getD 10), true, rest)
  | option :: rest =>
    match option.toList with
    | '-' :: 'n' :: digits => ((Decimal.digits? digits).getD 10, false, rest)
    | '-' :: 'c' :: digits => ((Decimal.digits? digits).getD 10, true, rest)
    | '-' :: digits =>
      match Decimal.digits? digits with
      | some count => (count, false, rest)
      | none => (10, false, option :: rest)
    | _ => (10, false, option :: rest)
  | [] => (10, false, [])

/-- The first or the last lines or bytes of an input. -/
def partOf (fromEnd : Bool) (count : Nat) (bytewise : Bool) (input : List UInt8) : List UInt8 :=
  if bytewise then if fromEnd then input.drop (input.length - count) else input.take count
  else
    let lines := byteLines input.length input
    (if fromEnd then lines.drop (lines.length - count) else lines.take count).flatten

/-- The counts of lines, words and bytes. -/
def counts (input : List UInt8) : Nat × Nat × Nat :=
  let isGap (byte : UInt8) := byte == 32 || (9 ≤ byte && byte ≤ 13)
  let (words, _) := input.foldl (fun (count, inside) byte =>
    if isGap byte then (count, false) else (if inside then count else count + 1, true)) (0, false)
  (input.count 10, words, input.length)

end Placard.Shell
