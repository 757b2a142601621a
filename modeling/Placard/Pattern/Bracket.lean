import Placard.Pattern.Escape

/-! Classes of characters between brackets. -/

namespace Placard.Pattern

/-- The names of the classes that are written between brackets and colons. -/
def posixNames : List String :=
  ["alnum", "alpha", "ascii", "blank", "cntrl", "digit", "graph", "lower", "print", "punct",
    "space", "upper", "word", "xdigit"]

/-- Reads a class by its name between brackets and colons, if there is one. -/
private def readPosix? : Scan (Option ClassTree) := do
  let before ← get
  match before.rest with
  | '[' :: ':' :: afterColon =>
    let negated := afterColon.head? == some '^'
    let named := if negated then afterColon.tail else afterColon
    let name := named.takeWhile (· != ':')
    match named.drop name.length with
    | ':' :: ']' :: _ =>
      if posixNames.contains (.ofList name) then
        let length := 2 + (if negated then 1 else 0) + name.length + 2
        set (before.advance length)
        return some (.named ((← get).since before.place) (.posix (.ofList name)) negated)
      else return none
    | _ => return none
  | _ => return none

/-- Classes side by side, with the part of the pattern in which they stand. -/
private structure Union where
  span : Span
  items : List ClassTree

/-- A union with one more class. -/
private def Union.push (union : Union) (item : ClassTree) : Union :=
  let start := if union.items.isEmpty then item.span.start else union.span.start
  ⟨⟨start, item.span.stop⟩, union.items ++ [item]⟩

/-- A union as one class. -/
private def Union.toClass (union : Union) : ClassTree :=
  match union.items with
  | [] => .nothing union.span
  | [only] => only
  | items => .union union.span items

/-- What an operator between brackets waits for: the operator and its left side. -/
private abbrev Pending := Option (ClassOperation × ClassTree)

/-- The class of an operator whose right side is there. -/
private def settlePending (pending : Pending) (right : ClassTree) : ClassTree :=
  match pending with
  | none => right
  | some (operation, left) => .combine ⟨left.span.start, right.span.stop⟩ operation left right

/-- Reads one character or named class between brackets. -/
private def readItem (c : Char) : Scan Atom :=
  if c == '\\' then readEscape else return .letter (← readVerbatim c)

/-- An atom as the end of a range. -/
private def rangeEnd : Atom → Scan Letter
  | .letter held => return held
  | other => blame .classRangeEnd other.span

/-- An atom as a class. -/
private def itemClass : Atom → Scan ClassTree
  | .letter held => return .letter held
  | .named span name negated => return .named span name negated
  | other => blame .classEscape other.span

/-- Reads a character, a named class or a range; the head of the whole class is given for blame. -/
private def readRange (opened : Span) (c : Char) : Scan ClassTree := do
  let first ← readItem c
  skipSpace
  let cursor ← get
  if cursor.head?.isNone then blame .classUnclosed opened
  let next := cursor.afterHead?
  if cursor.head? != some '-' || next == some ']' || next == some '-' then itemClass first
  else
    if !(← step) then blame .classUnclosed opened
    match (← get).head? with
    | none => blame .classUnclosed opened
    | some d =>
      let second ← readItem d
      let span : Span := ⟨first.span.start, second.span.stop⟩
      let low ← rangeEnd first
      let high ← rangeEnd second
      if high.char < low.char then blame .classRange span
      return .range span low high

/-- Reads the dashes that open a class, each of which stands for itself. -/
private def readDashes (start : Place) (fuel : Nat) (union : Union) : Scan Union := do
  match fuel with
  | 0 => return union
  | fuel + 1 =>
    if (← get).head? != some '-' then return union
    let span := (← get).headSpan
    if !(← step) then blame .classUnclosed ⟨start, start⟩
    readDashes start fuel (union.push (.letter ⟨span, '-', false⟩))

/-- Reads the opening of a class: its bracket, its negation and what stands for itself at its start. -/
private def readClassOpening : Scan (Span × Bool × Union) := do
  let start := (← get).place
  if !(← step) then blameSince .classUnclosed start
  let negated := (← get).head? == some '^'
  if negated then
    if !(← step) then blameSince .classUnclosed start
  let cursor ← get
  let dashes ← readDashes start cursor.rest.length ⟨cursor.here, []⟩
  let afterDashes ← get
  if dashes.items.isEmpty && afterDashes.head? == some ']' then
    let bracket : Letter := ⟨afterDashes.headSpan, ']', false⟩
    if !(← step) then blameSince .classUnclosed start
    return ((← get).since start, negated, dashes.push (.letter bracket))
  return (afterDashes.since start, negated, dashes)

/-- The operator that two equal characters write between brackets. -/
private def operation? : List Char → Option ClassOperation
  | '&' :: '&' :: _ => some .intersection
  | '-' :: '-' :: _ => some .difference
  | '~' :: '~' :: _ => some .symmetricDifference
  | _ => none

/-- Reads the items of a class up to its closing bracket; the fuel bounds their number. -/
private def readClassItems (fuel : Nat) (opened : Span) (negated : Bool) (union : Union)
    (pending : Pending) : Scan ClassTree := do
  match fuel with
  | 0 => blame .classUnclosed opened
  | fuel + 1 =>
    skipSpace
    let cursor ← get
    match cursor.head? with
    | none => blame .classUnclosed opened
    | some '[' =>
      match ← readPosix? with
      | some item => readClassItems fuel opened negated (union.push item) pending
      | none =>
        let (inside, inverted, start) ← readClassOpening
        let item ← readClassItems fuel inside inverted start none
        readClassItems fuel opened negated (union.push item) pending
    | some ']' =>
      discard bump
      let span := (← get).since opened.start
      return .bracket span negated (settlePending pending union.toClass)
    | some c =>
      match operation? cursor.rest with
      | some operation =>
        discard bump
        discard bump
        let left := settlePending pending union.toClass
        readClassItems fuel opened negated ⟨(← get).here, []⟩ (some (operation, left))
      | none =>
        let item ← readRange opened c
        readClassItems fuel opened negated (union.push item) pending

/-- Reads a class between brackets, the head being on its opening bracket. -/
def readBracket : Scan Written := do
  let fuel := 2 * (← get).rest.length + 1
  let (opened, negated, start) ← readClassOpening
  match ← readClassItems fuel opened negated start none with
  | .bracket span negated inner => return .bracket span negated inner
  | other => return .bracket other.span false other

end Placard.Pattern
