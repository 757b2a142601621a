import Placard.Toml.Number
import Placard.Toml.Quoted
import Placard.Toml.Table

/-! Reading TOML documents: keys, values, headers and lines. -/

namespace Placard.Toml

/-- The number of lists and tables that may stand inside one another, and of steps in a key. -/
def nestingLimit : Nat := 80

/-- A character of a key without quotation marks. -/
def isBareKeyChar (c : Char) : Bool := c.isAlphanum || c == '-' || c == '_'

/-- One step of a key. -/
def readKeyStep (text : List Char) : Except Halt (String × List Char) :=
  match text with
  | '"' :: _ => do
    let (letters, rest) ← readLineText text
    return (.ofList letters, rest)
  | '\'' :: _ => do
    let (letters, rest) ← readLineText text
    return (.ofList letters, rest)
  | _ =>
    let name := text.takeWhile isBareKeyChar
    if name.isEmpty then decline text else .ok (.ofList name, text.drop name.length)

/-- The steps of a key, with points and blanks between them; the fuel bounds the number of steps. -/
def readKeySteps (fuel : Nat) (text : List Char) : Except Halt (List String × List Char) :=
  match fuel with
  | 0 => decline text
  | fuel + 1 => do
    let (step, afterStep) ← readKeyStep (skipGaps text)
    match skipGaps afterStep with
    | '.' :: rest =>
      match readKeySteps fuel rest with
      | .ok (others, final) => return (step :: others, final)
      | .error ⟨left, true⟩ => throw ⟨left, true⟩
      | .error _ => return ([step], '.' :: rest)
    | rest => return ([step], rest)

/-- A key, which may have several steps. -/
def readKey (text : List Char) : Except Halt (List String × List Char) := do
  let (steps, rest) ← readKeySteps (text.length + 1) text
  if nestingLimit ≤ steps.length then decline text else return (steps, rest)

/-- A given word, which nothing else begins with. -/
def readWord (word : String) (value : Toml) (text : List Char) :
    Except Halt (Toml × List Char) :=
  if text.take word.length == word.toList then .ok (value, text.drop word.length) else halt text

mutual

/-- A value at a level of nesting; the fuel bounds the number of values. -/
def readValue (fuel level : Nat) (text : List Char) : Except Halt (Toml × List Char) :=
  match fuel with
  | 0 => decline text
  | fuel + 1 =>
    match text with
    | [] => decline text
    | c :: rest =>
      if c == '"' || c == '\'' then do
        let (letters, final) ← readText text
        return (.text (.ofList letters), final)
      else if c == '[' then
        if nestingLimit ≤ level + 1 then halt text else readArray fuel (level + 1) rest
      else if c == '{' then
        if nestingLimit ≤ level + 1 then halt text else readInline fuel (level + 1) rest
      else if c == '+' || c == '-' || c.isDigit then readNumber text
      else if c == '_' then readInteger text
      else if c == '.' || c == 'i' || c == 'n' then readFloat text
      else if c == 't' then readWord "true" (.bool true) text
      else if c == 'f' then readWord "false" (.bool false) text
      else decline text

/-- The items of a list behind its opening bracket. -/
def readArray (fuel level : Nat) (text : List Char) : Except Halt (Toml × List Char) :=
  match fuel with
  | 0 => decline text
  | fuel + 1 => do
    let (items, afterItems) ← readItems fuel level text
    let afterComma := match afterItems with
      | ',' :: rest => if items.isEmpty then ',' :: rest else rest
      | rest => rest
    match ← insist (skipLines afterComma.length afterComma) with
    | ']' :: final => return (.array items, final)
    | rest => halt rest

/-- Values with commas between them, up to the first place where there is no further value. -/
def readItems (fuel level : Nat) (text : List Char) : Except Halt (List Toml × List Char) :=
  match fuel with
  | 0 => decline text
  | fuel + 1 =>
    let item : Except Halt (Toml × List Char) := do
      let start ← skipLines text.length text
      let (value, after) ← readValue fuel level start
      return (value, ← skipLines after.length after)
    match item with
    | .error ⟨left, true⟩ => .error ⟨left, true⟩
    | .error _ => .ok ([], text)
    | .ok (value, ',' :: rest) => do
      let (others, final) ← readItems fuel level rest
      return (value :: others, if others.isEmpty then ',' :: rest else final)
    | .ok (value, rest) => .ok ([value], rest)

/-- The items of a table in braces behind the opening one. -/
def readInline (fuel level : Nat) (text : List Char) : Except Halt (Toml × List Char) :=
  match fuel with
  | 0 => decline text
  | fuel + 1 => do
    let (pairs, afterPairs) ← readPairs fuel level text
    let made := pairs.foldlM (fun items (path, value) =>
      (putValue path value .stated items).map (·.2)) ([] : Items)
    match made with
    | none => halt text
    | some items =>
      match skipGaps afterPairs with
      | '}' :: final => return (.table (itemsToToml items), final)
      | rest => halt rest

/-- Keys with values and commas between them, up to the first place where there is no further key. -/
def readPairs (fuel level : Nat) (text : List Char) :
    Except Halt (List (List String × Toml) × List Char) :=
  match fuel with
  | 0 => decline text
  | fuel + 1 =>
    let pair : Except Halt ((List String × Toml) × List Char) := do
      let (path, afterKey) ← readKey text
      match afterKey with
      | '=' :: rest =>
        let (value, after) ← insist (readValue fuel level (skipGaps rest))
        return ((path, value), skipGaps after)
      | other => halt other
    match pair with
    | .error ⟨left, true⟩ => .error ⟨left, true⟩
    | .error _ => .ok ([], text)
    | .ok (entry, ',' :: rest) => do
      let (others, final) ← readPairs fuel level rest
      return (entry :: others, if others.isEmpty then ',' :: rest else final)
    | .ok (entry, rest) => .ok ([entry], rest)

end

/-- A header in brackets: its key, and whether the brackets are doubled. -/
def readHeader (text : List Char) : Except Halt ((List String × Bool) × List Char) :=
  match text with
  | '[' :: '[' :: rest => do
    let (path, afterKey) ← insist (readKey rest)
    match afterKey with
    | ']' :: ']' :: after => return ((path, true), ← endLine after)
    | other => halt other
  | '[' :: rest =>
    -- A lone bracket at the end of a document is looked at with nothing behind it.
    if rest.isEmpty then halt text
    else do
      let (path, afterKey) ← insist (readKey rest)
      match afterKey with
      | ']' :: after => return ((path, false), ← endLine after)
      | other => halt other
  | other => halt other

/-- A key with its value on a line of its own. -/
def readLine (text : List Char) : Except Halt ((List String × Toml) × List Char) := do
  let (path, afterKey) ← insist (readKey text)
  match afterKey with
  | '=' :: rest =>
    let (value, after) ← insist (readValue (4 * text.length + 4) 0 (skipGaps rest))
    return ((path, value), ← endLine after)
  | other => halt other

/-- Reads the lines of a document one after another; the fuel bounds their number. -/
def readLines (fuel : Nat) (document : Document) (text : List Char) : Except Halt Document :=
  match fuel with
  | 0 => halt text
  | fuel + 1 => do
    let start := skipGaps text
    match start with
    | [] => return document
    | '#' :: _ => readLines fuel document (← endLine start)
    | '[' :: _ =>
      let ((path, doubled), after) ← readHeader start
      match if doubled then document.beginListTable path else document.beginTable path with
      | some next => readLines fuel next after
      | none => halt start
    | c :: _ =>
      if c == '\n' || c == '\r' then
        match newline? start with
        | some after => readLines fuel document after
        | none => halt start
      else
        let ((path, value), after) ← readLine start
        match document.addLine path value with
        | some next => readLines fuel next after
        | none => halt start

/-- The table that a document writes, or the line and the column where its reading stops.

Both are counted from one. -/
def parse (text : String) : Except (Nat × Nat) Toml :=
  let letters := text.toList
  let start := if letters.head? == some '\uFEFF' then letters.tail else letters
  let read : Except Halt Toml := do
    match (← readLines (start.length + 1) .empty start).finish with
    | some whole => return whole
    | none => halt []
  read.mapError fun stop =>
    let (line, column) := place letters stop.left
    (line + 1, column + 1)

end Placard.Toml
