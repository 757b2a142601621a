import Placard.Text.Utf8

/-! Where the reading of a TOML document stops, and the small parts of its lines. -/

namespace Placard.Toml

/-- Where reading stopped: the number of characters left, and whether that ends all reading.

Where it does not, the same characters may still be read as something else. -/
structure Halt where
  left : Nat
  final : Bool
deriving DecidableEq, Repr, Inhabited

/-- Ends all reading before the characters that are left. -/
def halt {α : Type} (rest : List Char) : Except Halt α := .error ⟨rest.length, true⟩

/-- Gives up one way of reading before the characters that are left. -/
def decline {α : Type} (rest : List Char) : Except Halt α := .error ⟨rest.length, false⟩

/-- Reading that fails ends all reading. -/
def insist {α : Type} (reading : Except Halt α) : Except Halt α :=
  reading.mapError fun stop => { stop with final := true }

/-- Reads in a second way what the first way gives up. -/
def orElse {α : Type} (first : Except Halt α) (second : Unit → Except Halt α) : Except Halt α :=
  match first with
  | .error ⟨_, false⟩ => second ()
  | other => other

/-- The line and the column of a place, both counted from zero.

A place before a character of several bytes has its column counted in bytes; behind the last
character of a document the column goes on from the last byte. -/
def place (text : List Char) (left : Nat) : Nat × Nat :=
  let before := text.take (text.length - left)
  let lineOf (part : List Char) := (part.reverse.takeWhile (· != '\n')).reverse
  match text.drop (text.length - left) with
  | c :: _ =>
    let line := lineOf before
    (before.count '\n', if c.toNat < 0x80 then line.length else Text.byteLength line)
  | [] =>
    let shorter := before.dropLast
    (shorter.count '\n', (lineOf shorter).length + (if before.isEmpty then 0 else 1))

/-! ### Blanks, comments and line ends -/

/-- A blank within a line. -/
def isGap (c : Char) : Bool := c == ' ' || c == '\t'

/-- What follows blanks within a line. -/
def skipGaps (text : List Char) : List Char := text.dropWhile isGap

/-- What follows a line end, if there is one. -/
def newline? : List Char → Option (List Char)
  | '\n' :: rest => some rest
  | '\r' :: '\n' :: rest => some rest
  | _ => none

/-- A character that may stand in a comment. -/
def inComment (c : Char) : Bool :=
  c == '\t' || (0x20 ≤ c.toNat && c.toNat != 0x7F)

/-- What follows a comment, which a hash begins. -/
def skipComment : List Char → List Char
  | '#' :: rest => rest.dropWhile inComment
  | other => other

/-- What follows the end of a line: blanks and a comment may stand before it. -/
def endLine (text : List Char) : Except Halt (List Char) :=
  match skipComment (skipGaps text) with
  | [] => .ok []
  | rest =>
    match newline? rest with
    | some after => .ok after
    | none => halt rest

/-- What follows blanks, comments and line ends; the fuel bounds the number of lines. -/
def skipLines (fuel : Nat) (text : List Char) : Except Halt (List Char) :=
  match fuel, skipGaps text with
  | fuel + 1, '#' :: rest =>
    match newline? (rest.dropWhile inComment) with
    | some after => skipLines fuel after
    | none => decline (rest.dropWhile inComment)
  | fuel + 1, '\n' :: rest => skipLines fuel rest
  | fuel + 1, '\r' :: rest =>
    match rest with
    | '\n' :: after => skipLines fuel after
    | _ => decline rest
  | _, rest => .ok rest

end Placard.Toml
