import Placard.Yaml.Plain

/-! Texts in YAML: bare, in single or double quotes, or as a block of lines. -/

namespace Placard.Yaml

/-- A character that ends a line. -/
def isBreak (c : Char) : Bool :=
  c == '\n' || c == '\r' || c == '\x85' || c == '\u2028' || c == '\u2029'

/-- A character that stands between words or ends a text. -/
def isGap (c : Char) : Bool :=
  c == ' ' || c == '\t' || c == '\x00' || isBreak c

/-- A character that may be written as itself. -/
def isPrintable (c : Char) : Bool :=
  let code := c.toNat
  code == 0x0A || (0x20 ≤ code && code ≤ 0x7E) ||
    (0xA0 ≤ code && code != 0xFEFF && code != 0xFFFE && code != 0xFFFF)

/-- Some character passes the first test, and the next one passes the second. -/
def hasPair (first second : Char → Bool) : List Char → Bool
  | a :: b :: rest => first a && second b || hasPair first second (b :: rest)
  | _ => false

/-- Nothing follows, or a gap does. -/
private def gapFollows : List Char → Bool
  | [] => true
  | next :: _ => isGap next

/-- A text begins with a character that would be read as a mark. -/
def startsWithMark : List Char → Bool
  | '-' :: '-' :: '-' :: _ => true
  | '.' :: '.' :: '.' :: _ => true
  | c :: rest =>
    "#,[]\x7b\x7d&*!|>'\"%@`".toList.contains c || (['?', ':', '-'].contains c && gapFollows rest)
  | [] => false

/-- A text holds a colon or a number sign where it would be read as a mark. -/
def holdsMark (text : List Char) : Bool :=
  hasPair (· == ':') isGap text || text.getLast? == some ':' || hasPair isGap (· == '#') text

/-- A text has a blank or the end of a line at one of its ends. -/
def hasLooseEnd (text : List Char) : Bool :=
  let loose (end? : Option Char) := end?.any fun c => c == ' ' || isBreak c
  loose text.head? || loose text.getLast?

/-- The ways to write a text. -/
inductive Style
  | bare
  | single
  | double
  | block
deriving DecidableEq, Repr, Inhabited

/-- The way to write a text: the first of block, bare, single and double that keeps it whole. -/
def Style.ofText (text : String) : Style :=
  let letters := text.toList
  -- Only double quotes keep a blank before the end of a line, and what cannot be printed.
  let fragile := !letters.all isPrintable || hasPair (· == ' ') isBreak letters
  if letters.contains '\n' then
    if fragile || letters.getLast? == some ' ' then double else block
  else if fragile || hasPair isBreak (· == ' ') letters then double
  else if namesValue text || startsWithMark letters || holdsMark letters || hasLooseEnd letters ||
      letters.any isBreak then single
  else bare

/-- A number in hexadecimal with a fixed count of digits. -/
private def hexDigits (count value : Nat) : List Char :=
  (List.range count).map fun place =>
    (Nat.digitChar (value / Nat.pow 16 (count - 1 - place) % 16)).toUpper

/-- The escapes that have a letter of their own. -/
def escapeLetters : List (Char × Char) :=
  [('\x00', '0'), ('\x07', 'a'), ('\x08', 'b'), ('\t', 't'), ('\n', 'n'), ('\x0b', 'v'),
    ('\x0c', 'f'), ('\r', 'r'), ('\x1b', 'e'), ('"', '"'), ('\\', '\\'), ('\x85', 'N'),
    ('\u2028', 'L'), ('\u2029', 'P')]

/-- A character inside double quotes. -/
def doubleChar (c : Char) : List Char :=
  match escapeLetters.lookup c with
  | some letter => ['\\', letter]
  | none =>
    if isPrintable c then [c]
    else if c.toNat ≤ 0xFF then '\\' :: 'x' :: hexDigits 2 c.toNat
    else if c.toNat ≤ 0xFFFF then '\\' :: 'u' :: hexDigits 4 c.toNat
    else '\\' :: 'U' :: hexDigits 8 c.toNat

/-- The blanks before a line. -/
def margin (columns : Nat) : List Char := List.replicate columns ' '

/-- Lines with a margin before every one that is not empty; a line starts here if `fresh`. -/
def indented (columns : Nat) (fresh : Bool) : List Char → List Char
  | [] => []
  | c :: rest =>
    if isBreak c then c :: indented columns true rest
    else (if fresh then margin columns else []) ++ c :: indented columns false rest

/-- The marks at the head of a block: a margin that is not plain to see, and how the block ends. -/
def blockHead (text : List Char) : List Char :=
  let begins := if text.head?.any fun c => c == ' ' || isBreak c then ['2'] else []
  let ends := match text.reverse with
    | last :: others =>
      if !isBreak last then ['-']
      else if others.head?.all isBreak then ['+'] else []
    | [] => ['-']
  '|' :: begins ++ ends

/-- A text is written as a block that keeps all empty lines at its end. -/
def keepsEnd (text : String) : Bool :=
  Style.ofText text == .block && (blockHead text.toList).contains '+'

/-- A character inside single quotes, where a quote is written twice. -/
def singleChar (c : Char) : List Char :=
  if c == '\'' then ['\'', '\''] else [c]

/-- A text written with a margin for its lines, in the given way. -/
def write (columns : Nat) (text : String) : Style → List Char
  | .bare => text.toList
  | .single =>
    let body := indented columns false (text.toList.flatMap singleChar)
    -- A quote that ends the text stands on a line like any other character.
    let closing := if text.toList.getLast?.any isBreak then margin columns else []
    '\'' :: body ++ closing ++ ['\'']
  | .double => '"' :: text.toList.flatMap doubleChar ++ ['"']
  | .block =>
    let body := indented columns true text.toList
    blockHead text.toList ++ '\n' :: body

end Placard.Yaml
