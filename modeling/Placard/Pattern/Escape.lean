import Placard.Decimal.Reading
import Placard.Json.Reader
import Placard.Pattern.Cursor

/-! Single parts of a pattern: characters, escapes and classes that have a name. -/

namespace Placard.Pattern

/-- A part of a pattern that is no group, no bracketed class and no repetition. -/
inductive Atom
  | letter (letter : Letter)
  | dot (span : Span)
  | assertion (span : Span) (kind : AssertionKind)
  | named (span : Span) (name : NamedClass) (negated : Bool)
deriving Repr, Inhabited

/-- The part of the pattern in which an atom stands. -/
def Atom.span : Atom → Span
  | letter held => held.span
  | dot span => span
  | assertion span _ => span
  | named span .. => span

/-- An atom as a part of a pattern. -/
def Atom.toWritten : Atom → Written
  | letter held => .letter held
  | dot span => .dot span
  | assertion span kind => .assertion span kind
  | named span name negated => .named span name negated

/-- Passes over the next character, which stands for itself. -/
def readVerbatim (c : Char) : Scan Letter := do
  let span := (← get).headSpan
  discard bump
  return ⟨span, c, false⟩

/-- The character of a code point, unless it has none. -/
private def scalar? (code : Nat) : Option Char :=
  if h : code.isValidChar then some (.ofNatAux code h) else none

/-- The value of hexadecimal digits. -/
private def hexNumber (digits : List Char) : Nat :=
  digits.foldl (fun value c => value * 16 + (Json.hexValue? c).getD 0) 0

/-- Reads digits up to a closing brace, the head being on the opening one. -/
private def readHexBrace (start : Place) : Scan Letter := do
  let brace := (← get).place
  let inside := (← get).headSpan.stop
  discard step
  let digits ← gather fun c => (Json.hexValue? c).isSome
  match (← get).head? with
  | none => blameSince .escapeEnd brace
  | some c => if c != '}' then blame .hexDigit (← get).headSpan
  let stop := (← get).place
  discard step
  if digits.isEmpty then blameSince .hexEmpty brace
  match scalar? (hexNumber digits) with
  | none => blame .hexNoCharacter ⟨inside, stop⟩
  | some c => return ⟨(← get).since start, c, false⟩

/-- Reads a given number of digits, the head being on the first one. -/
private def readHexDigits (start : Place) (count : Nat) : Scan Letter := do
  let inside := (← get).place
  let digits ← loop true count
  let stop := (← get).place
  match scalar? (hexNumber digits) with
  | none => blame .hexNoCharacter ⟨inside, stop⟩
  | some c => return ⟨⟨start, stop⟩, c, count == 2⟩
where
  /-- Reads digits one by one; the head ends up behind the last. -/
  loop (first : Bool) : Nat → Scan (List Char)
    | 0 => do discard step; return []
    | more + 1 => do
      if !first then
        if !(← step) then blameHere .escapeEnd
      match (← get).head? with
      | some c =>
        if (Json.hexValue? c).isNone then blame .hexDigit (← get).headSpan
        return c :: (← loop false more)
      | none => blameHere .escapeEnd

/-- Reads a character given by its number, the head being on the letter that says how. -/
private def readHex (start : Place) (count : Nat) : Scan Letter := do
  if !(← step) then blameHere .escapeEnd
  if (← get).head? == some '{' then readHexBrace start else readHexDigits start count

/-- The name and the value on both sides of a mark of equality. -/
private def splitProperty (name : List Char) : NamedClass :=
  let cut (mark : List Char) : Option (List Char × List Char) := go mark [] name
  match cut ['!', '='], cut [':'], cut ['='] with
  | some (before, after), _, _ => .property (.ofList before) (some (.ofList after))
  | none, some (before, after), _ => .property (.ofList before) (some (.ofList after))
  | none, none, some (before, after) => .property (.ofList before) (some (.ofList after))
  | none, none, none => .property (.ofList name) none
where
  /-- The texts before and after the first occurrence of a mark. -/
  go (mark before : List Char) : List Char → Option (List Char × List Char)
    | [] => none
    | c :: rest =>
      match Text.dropPrefix? mark (c :: rest) with
      | some after => some (before.reverse, after)
      | none => go mark (c :: before) rest

/-- Reads a class of characters with a property, the head being on the letter before its name. -/
private def readProperty (start : Place) (negated : Bool) : Scan Atom := do
  if !(← step) then blameHere .escapeEnd
  match (← get).head? with
  | some '{' =>
    discard step
    let name ← gather (· != '}')
    if (← get).head?.isNone then blameHere .escapeEnd
    discard bump
    return .named ((← get).since start) (splitProperty name) negated
  | some '\\' => blame .classLetter (← get).headSpan
  | some c =>
    discard step
    return .named ((← get).since start) (.property (.singleton c) none) negated
  | none => blameHere .escapeEnd

/-- The characters that have a meaning of their own in some pattern. -/
def isMeta (c : Char) : Bool :=
  "\\.+*?()|[]\x7b\x7d^$#&-~".toList.contains c

/-- The characters that an escape leaves as they are. -/
private def isEscapable (c : Char) : Bool :=
  isMeta c || (c.toNat < 0x80 && !c.isAlphanum && c != '<' && c != '>')

/-- The characters of a name for a kind of word boundary. -/
private def isBoundaryLetter (c : Char) : Bool :=
  c.isAlpha || c == '-'

/-- Reads what kind of word boundary is meant, if a name in braces follows. -/
private def readBoundary (start : Place) : Scan Atom := do
  let before ← get
  let plain : Atom := .assertion (before.since start) .boundary
  if before.head? != some '{' then return plain
  if !(← step) then blameSince .boundaryEnd start
  let inside := (← get).place
  if !((← get).head?.map isBoundaryLetter).getD false then
    -- What is in the braces is a count, which is read later.
    set before
    return plain
  let name := String.ofList (← gather isBoundaryLetter)
  if (← get).head? != some '}' then blameSince .boundaryUnclosed before.place
  let stop := (← get).place
  discard bump
  let span := (← get).since start
  match name with
  | "start" => return .assertion span .wordStart
  | "end" => return .assertion span .wordEnd
  | "start-half" => return .assertion span .wordStartHalf
  | "end-half" => return .assertion span .wordEndHalf
  | _ => blame .boundaryUnknown ⟨inside, stop⟩

/-- Reads an escape, the head being on the backslash. -/
def readEscape : Scan Atom := do
  let start := (← get).place
  if !(← bump) then blameSince .escapeEnd start
  let cursor ← get
  match cursor.head? with
  | none => blameSince .escapeEnd start
  | some c =>
    if c.isDigit then blame .backReference ⟨start, cursor.headSpan.stop⟩
    let short (kind : ShortClass) (negated : Bool) : Scan Atom := do
      discard bump
      return .named ((← get).since start) (.short kind) negated
    match c with
    | 'x' => return .letter (← readHex start 2)
    | 'u' => return .letter (← readHex start 4)
    | 'U' => return .letter (← readHex start 8)
    | 'p' => readProperty start false
    | 'P' => readProperty start true
    | 'd' => short .digit false
    | 's' => short .space false
    | 'w' => short .word false
    | 'D' => short .digit true
    | 'S' => short .space true
    | 'W' => short .word true
    | _ =>
      discard bump
      let span := (← get).since start
      let letter (c : Char) : Scan Atom := return .letter ⟨span, c, false⟩
      let assertion (kind : AssertionKind) : Scan Atom := return .assertion span kind
      if isEscapable c then letter c
      else match c with
        | 'a' => letter '\x07'
        | 'f' => letter '\x0c'
        | 't' => letter '\t'
        | 'n' => letter '\n'
        | 'r' => letter '\r'
        | 'v' => letter '\x0b'
        | 'A' => assertion .textStart
        | 'z' => assertion .textEnd
        | 'b' => readBoundary start
        | 'B' => assertion .noBoundary
        | '<' => assertion .wordStart
        | '>' => assertion .wordEnd
        | _ => blame .escapeUnknown span

/-- Reads one atom, the head being on its first character. -/
def readAtom (c : Char) : Scan Atom := do
  let span := (← get).headSpan
  match c with
  | '\\' => readEscape
  | '.' => do discard bump; return .dot span
  | '^' => do discard bump; return .assertion span .lineStart
  | '$' => do discard bump; return .assertion span .lineEnd
  | _ => return .letter (← readVerbatim c)

/-- Reads a whole number; blanks may stand around it. -/
def readCount : Scan (Except Fault Nat) := do
  let cursor ← get
  let lead := cursor.advance (cursor.rest.takeWhile Text.isBlank).length
  set lead
  let digits ← gather Char.isDigit
  let span := (← get).since lead.place
  let after ← get
  -- Blanks behind the number are passed over together with what does not count.
  set (after.gather Text.isBlank after.rest.length).2
  if digits.isEmpty then return .error ⟨.countEmpty, span, none⟩
  match Decimal.natural? 0xFFFF_FFFF digits with
  | some value => return .ok value
  | none => return .error ⟨.decimalInvalid, span, none⟩

end Placard.Pattern
