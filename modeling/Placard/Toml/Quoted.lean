import Placard.Toml.Cursor

/-! Quoted TOML texts: of one line or several, with escapes or without. -/

namespace Placard.Toml

/-- The value of a hexadecimal digit. -/
def hexValue? (c : Char) : Option Nat :=
  if c.isDigit then some (c.toNat - 48)
  else if 'a' ≤ c ∧ c ≤ 'f' then some (c.toNat - 87)
  else if 'A' ≤ c ∧ c ≤ 'F' then some (c.toNat - 55)
  else none

/-- The character of a number of hexadecimal digits, which all have to be there. -/
def readCode (count : Nat) (text : List Char) : Except Halt (Char × List Char) :=
  let digits := (text.take count).filterMap hexValue?
  let code := digits.foldl (fun value digit => value * 16 + digit) 0
  if digits.length == count && (text.take count).length == count && code.isValidChar then
    .ok (.ofNat code, text.drop count)
  else halt text

/-- The character of an escape, read behind its backslash. -/
def readEscape : List Char → Except Halt (Char × List Char)
  | 'b' :: rest => .ok ('\x08', rest)
  | 't' :: rest => .ok ('\t', rest)
  | 'n' :: rest => .ok ('\n', rest)
  | 'f' :: rest => .ok ('\x0c', rest)
  | 'r' :: rest => .ok ('\r', rest)
  | '"' :: rest => .ok ('"', rest)
  | '\\' :: rest => .ok ('\\', rest)
  | 'u' :: rest => readCode 4 rest
  | 'U' :: rest => readCode 8 rest
  | _ :: rest => halt rest
  | [] => decline []

/-- The characters of a basic text on one line, up to its closing mark. -/
def readBasic (fuel : Nat) (text : List Char) : Except Halt (List Char × List Char) :=
  match fuel, text with
  | _, '"' :: rest => .ok ([], rest)
  | fuel + 1, '\\' :: rest =>
    match rest with
    | [] => halt text
    | _ => do
      let (c, after) ← readEscape rest
      let (more, final) ← readBasic fuel after
      return (c :: more, final)
  | fuel + 1, c :: rest =>
    if inComment c then do
      let (more, final) ← readBasic fuel rest
      return (c :: more, final)
    else halt text
  | _, _ => halt text

/-- What follows blanks and line ends; the fuel bounds the number of lines. -/
def skipEmptyLines (fuel : Nat) (text : List Char) : List Char :=
  match fuel, newline? (skipGaps text) with
  | fuel + 1, some rest => skipEmptyLines fuel rest
  | _, _ => skipGaps text

/-- Something that belongs to a text of several lines comes next. -/
def goesOn (escapes : Bool) (text : List Char) : Bool :=
  match text with
  | [] => false
  | ['\\'] => !escapes
  | c :: _ => inComment c || (newline? text).isSome

/-- Reads marks in a row: fewer than three belong to the text, and of more the first ones may.

Something of the text has to follow marks that do not close it. -/
def readMarks (escapes : Bool) (mark : Char) (text : List Char)
    (read : List Char → Except Halt (List Char × List Char)) :
    Except Halt (List Char × List Char) :=
  let count := (text.takeWhile (· == mark)).length
  if count < 3 then
    let after := text.drop count
    if goesOn escapes after then do
      let (more, final) ← read after
      return (List.replicate count mark ++ more, final)
    else halt text
  else
    let extra := min (count - 3) 2
    .ok (List.replicate extra mark, text.drop (extra + 3))

/-- The characters of a basic text of several lines, up to its closing marks.

One or two marks may stand anywhere, also just before the closing ones. -/
def readBasicLines (fuel : Nat) (text : List Char) :
    Except Halt (List Char × List Char) :=
  match fuel with
  | 0 => halt text
  | fuel + 1 =>
    match text with
    | '\\' :: rest =>
      match newline? (skipGaps rest) with
      | some after => readBasicLines fuel (skipEmptyLines after.length after)
      | none =>
        match rest with
        | [] => halt text
        | _ => do
          let (c, after) ← readEscape rest
          let (more, final) ← readBasicLines fuel after
          return (c :: more, final)
    | '"' :: _ => readMarks true '"' text fun after => readBasicLines fuel after
    | c :: rest =>
      match newline? text with
      | some after => do
        let (more, final) ← readBasicLines fuel after
        return ('\n' :: more, final)
      | none =>
        if inComment c then do
          let (more, final) ← readBasicLines fuel rest
          return (c :: more, final)
        else halt text
    | [] => halt text

/-- The characters of a literal text on one line, up to its closing mark. -/
def readLiteral (text : List Char) : Except Halt (List Char × List Char) :=
  let inner := text.takeWhile fun c => c != '\'' && inComment c
  match text.drop inner.length with
  | '\'' :: rest => .ok (inner, rest)
  | rest => halt rest

/-- The characters of a literal text of several lines, up to its closing marks. -/
def readLiteralLines (fuel : Nat) (text : List Char) :
    Except Halt (List Char × List Char) :=
  match fuel with
  | 0 => halt text
  | fuel + 1 =>
    match text with
    | '\'' :: _ => readMarks false '\'' text fun after => readLiteralLines fuel after
    | c :: rest =>
      match newline? text with
      | some after => do
        let (more, final) ← readLiteralLines fuel after
        return ('\n' :: more, final)
      | none =>
        if inComment c then do
          let (more, final) ← readLiteralLines fuel rest
          return (c :: more, final)
        else halt text
    | [] => halt text

/-- A text of several lines does not begin with the line end behind its opening marks. -/
def dropFirstLineEnd (text : List Char) : List Char := (newline? text).getD text

/-- A quoted text on one line. -/
def readLineText : List Char → Except Halt (List Char × List Char)
  | '"' :: rest => readBasic rest.length rest
  | '\'' :: rest => readLiteral rest
  | other => decline other

/-- A quoted text. -/
def readText : List Char → Except Halt (List Char × List Char)
  | '"' :: '"' :: '"' :: rest => readBasicLines (rest.length + 1) (dropFirstLineEnd rest)
  | '\'' :: '\'' :: '\'' :: rest => readLiteralLines (rest.length + 1) (dropFirstLineEnd rest)
  | other => readLineText other

end Placard.Toml
