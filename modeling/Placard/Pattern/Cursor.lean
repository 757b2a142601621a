import Placard.Pattern.Syntax
import Placard.Text.Blank

/-! A reading head on a pattern: the characters that remain, and the place where they start. -/

namespace Placard.Pattern

/-- Where the reading of a pattern stands. -/
structure Cursor where
  rest : List Char
  place : Place
  /-- Blanks and comments between the parts do not count. -/
  spaced : Bool
  /-- The number of groups opened so far. -/
  groups : Nat
  /-- The names of groups so far, each with its place. -/
  names : List (String × Span)
deriving Repr, Inhabited

/-- A reader of a part of a pattern. -/
abbrev Scan := StateT Cursor (Except Fault)

namespace Cursor

/-- The reading head at the start of a pattern. -/
def ofPattern (pattern : List Char) : Cursor := ⟨pattern, ⟨1, 1⟩, false, 0, []⟩

/-- The next character. -/
def head? (cursor : Cursor) : Option Char := cursor.rest.head?

/-- The reading head after the next character. -/
def bump (cursor : Cursor) : Cursor :=
  match cursor.rest with
  | [] => cursor
  | c :: rest =>
    let place := cursor.place
    { cursor with
      rest := rest
      place := if c == '\n' then ⟨place.line + 1, 1⟩ else ⟨place.line, place.column + 1⟩ }

/-- The reading head after several characters. -/
def advance : Nat → Cursor → Cursor
  | 0, cursor => cursor
  | count + 1, cursor => advance count cursor.bump

/-- The number of characters at the start that are blanks or comments. -/
private def spaceLength (comment : Bool) : List Char → Nat
  | [] => 0
  | c :: rest =>
    if comment then 1 + spaceLength (c != '\n') rest
    else if Text.isBlank c then 1 + spaceLength false rest
    else if c == '#' then 1 + spaceLength true rest
    else 0

/-- The reading head after blanks and comments, where they do not count. -/
def skipSpace (cursor : Cursor) : Cursor :=
  if cursor.spaced then cursor.advance (spaceLength false cursor.rest) else cursor

/-- The reading head after the next character and what does not count behind it. -/
def step (cursor : Cursor) : Cursor := cursor.bump.skipSpace

/-- The empty part at the reading head. -/
def here (cursor : Cursor) : Span := ⟨cursor.place, cursor.place⟩

/-- The part that holds the next character. -/
def headSpan (cursor : Cursor) : Span := ⟨cursor.place, cursor.bump.place⟩

/-- The part from a place up to the reading head. -/
def since (cursor : Cursor) (start : Place) : Span := ⟨start, cursor.place⟩

/-- The characters that follow the next one, where it counts as the first. -/
def afterHead? (cursor : Cursor) : Option Char :=
  if !cursor.spaced then cursor.bump.head?
  else match (go false cursor.rest.tail) with
    | [] => cursor.rest.tail.head?
    | c :: _ => some c
where
  /-- Drops blanks and the marks of comments, but not the words of a comment. -/
  go (comment : Bool) : List Char → List Char
    | [] => []
    | c :: rest =>
      if Text.isBlank c && !(comment && c == '\n') then go comment rest
      else if !comment && c == '#' then go true rest
      else if comment && c == '\n' then go false rest
      else c :: rest

/-- The characters at the start that pass a test, with what does not count left out between them. -/
def gather (test : Char → Bool) (fuel : Nat) (cursor : Cursor) : List Char × Cursor :=
  match fuel, cursor.rest with
  | fuel + 1, c :: _ =>
    if test c then
      let (more, after) := gather test fuel cursor.step
      (c :: more, after)
    else ([], cursor)
  | _, _ => ([], cursor)

end Cursor

/-- Blames a part of the pattern. -/
def blame {α : Type} (cause : Cause) (span : Span) : Scan α :=
  throw ⟨cause, span, none⟩

/-- Blames the empty part at the reading head. -/
def blameHere {α : Type} (cause : Cause) : Scan α := do
  blame cause (← get).here

/-- Blames the part from a place up to the reading head. -/
def blameSince {α : Type} (cause : Cause) (start : Place) : Scan α := do
  blame cause ((← get).since start)

/-- Passes over the next character; tells whether another follows. -/
def bump : Scan Bool := do
  modify Cursor.bump
  return (← get).head?.isSome

/-- Passes over the next character and what does not count; tells whether another follows. -/
def step : Scan Bool := do
  modify Cursor.step
  return (← get).head?.isSome

/-- Passes over blanks and comments where they do not count. -/
def skipSpace : Scan Unit := modify Cursor.skipSpace

/-- Passes over the characters of a word if they come next. -/
def bumpIf (word : String) : Scan Bool := do
  let cursor ← get
  if (Text.dropPrefix? word.toList cursor.rest).isSome then
    set (cursor.advance word.length)
    return true
  else return false

/-- The characters at the reading head that pass a test. -/
def gather (test : Char → Bool) : Scan (List Char) := do
  let cursor ← get
  let (found, after) := cursor.gather test cursor.rest.length
  set after
  return found

end Placard.Pattern
