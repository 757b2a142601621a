import Placard.Decimal.Layout
import Placard.Toml.Value

/-! Writing TOML: the plainest form of each text, and lines of keys with values. -/

namespace Placard.Toml

/-- The forms of a written text. -/
inductive Form
  | basic
  | literal
  | basicLines
  | literalLines
deriving DecidableEq, Repr, Inhabited

/-- A control character, which only an escape can write. -/
def needsCode (c : Char) : Bool :=
  (c.toNat < 0x20 && c != '\t' && c != '\n') || c.toNat == 0x7F

/-- The longest run of a character in a text, counted on from a run that has begun. -/
def longestRun (mark : Char) : Nat → List Char → Nat
  | run, [] => run
  | run, c :: rest =>
    if c == mark then longestRun mark (run + 1) rest else max run (longestRun mark 0 rest)

/-- The form in which a text is written: the first one that needs no escapes, if there is one. -/
def Form.of (text : List Char) : Form :=
  let coded := text.any needsCode
  let escaped := text.contains '\\'
  let hasLines := text.contains '\n'
  let singles := longestRun '\'' 0 text
  let doubles := longestRun '"' 0 text
  if !coded && !escaped && doubles == 0 && !hasLines then .basic
  else if !coded && singles == 0 && !hasLines then .literal
  else if !coded && !escaped && doubles ≤ 2 then .basicLines
  else if !coded && singles ≤ 2 then .literalLines
  else if hasLines then .basicLines
  else .basic

/-- A hexadecimal digit in a capital letter. -/
def hexDigit (value : Nat) : Char := (Nat.digitChar value).toUpper

/-- The characters of a basic text; over several lines, two quotation marks in a row stay bare.

The count tells how many bare marks stand just before. -/
def escapeBasic (severalLines : Bool) : Nat → List Char → List Char
  | _, [] => []
  | marks, c :: rest =>
    let escape (letter : Char) := '\\' :: letter :: escapeBasic severalLines 0 rest
    match c with
    | '"' =>
      if severalLines && marks < 2 then '"' :: escapeBasic severalLines (marks + 1) rest
      else escape '"'
    | '\\' => escape '\\'
    | '\x08' => escape 'b'
    | '\t' => escape 't'
    | '\x0c' => escape 'f'
    | '\r' => escape 'r'
    | '\n' => if severalLines then '\n' :: escapeBasic severalLines 0 rest else escape 'n'
    | _ =>
      if needsCode c then
        ['\\', 'u', '0', '0', hexDigit (c.toNat / 16), hexDigit (c.toNat % 16)] ++
          escapeBasic severalLines 0 rest
      else c :: escapeBasic severalLines 0 rest

/-- A text in its written form. -/
def writeText (text : String) : String :=
  let letters := text.toList
  -- The line end behind opening marks does not belong to the text.
  let opening := if letters.contains '\n' then "\n" else ""
  match Form.of letters with
  | .basic => "\"" ++ .ofList (escapeBasic false 0 letters) ++ "\""
  | .literal => "'" ++ text ++ "'"
  | .basicLines => "\"\"\"" ++ opening ++ .ofList (escapeBasic true 0 letters) ++ "\"\"\""
  | .literalLines => "'''" ++ opening ++ text ++ "'''"

/-- A floating-point number in its written form. -/
def writeFloat (value : Float) : String := Decimal.toml.write value

/-- A line with a key and a written value. -/
def line (key written : String) : String := key ++ " = " ++ written ++ "\n"

/-- The line that begins a table, with an empty line before it. -/
def header (key : String) : String := "\n[" ++ key ++ "]\n"

end Placard.Toml
