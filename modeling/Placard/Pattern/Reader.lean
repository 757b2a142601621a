import Placard.Pattern.Bracket
import Placard.Unicode.Category
import Placard.Unicode.Property

/-! Reading patterns: groups, branches and repetitions. -/

namespace Placard.Pattern

/-- The letters of the switches. -/
private def flagOf? : Char → Option Flag
  | 'i' => some .ignoreCase
  | 'm' => some .manyLines
  | 's' => some .dotAll
  | 'U' => some .swapGreed
  | 'u' => some .unicode
  | 'R' => some .crlf
  | 'x' => some .spaced
  | _ => none

/-- The characters of the Unicode property for letters of any script. -/
private def alphabetic : CharSet := (Unicode.property? "alphabetic").getD .empty

/-- The characters that denote numbers. -/
private def numeric : CharSet := Unicode.joined ["nd", "nl", "no"]

/-- A character may stand in the name of a group; the first one is chosen more strictly. -/
private def isNameLetter (first : Bool) (c : Char) : Bool :=
  if first then c == '_' || alphabetic.contains c
  else c == '_' || c == '.' || c == '[' || c == ']' || alphabetic.contains c || numeric.contains c

/-- Reads the name of a group up to its closing mark, and keeps it. -/
private def readName : Scan Unit := do
  let cursor ← get
  let start := cursor.place
  if cursor.head?.isNone then blameHere .nameEnd
  let letters := cursor.rest.takeWhile (· != '>')
  match letters.zipIdx.find? fun (c, index) => !isNameLetter (index == 0) c with
  | some (_, index) => blame .nameCharacter (cursor.advance index).headSpan
  | none =>
    let after := cursor.advance letters.length
    set after
    if after.head?.isNone then blameHere .nameEnd
    let name := String.ofList letters
    let span := after.since start
    discard bump
    if letters.isEmpty then blame .nameEmpty ⟨start, start⟩
    match after.names.lookup name with
    | some other => throw ⟨.nameTwice, span, some other⟩
    | none => modify fun state => { state with names := state.names ++ [(name, span)] }

/-- A switch or the sign that turns the following ones off, with its place. -/
private abbrev FlagItem := Option Flag × Span

/-- Reads switches up to a colon or a closing parenthesis; the fuel bounds their number. -/
private def readFlagItems (fuel : Nat) (items : List FlagItem) : Scan (List FlagItem) := do
  match fuel with
  | 0 => blameHere .flagEnd
  | fuel + 1 =>
    let cursor ← get
    match cursor.head? with
    | none => blameHere .flagEnd
    | some c =>
      if c == ':' || c == ')' then
        match items.getLast? with
        | some (none, span) => blame .flagDangling span
        | _ => return items
      else
        let span := cursor.headSpan
        let item : Option Flag ←
          if c == '-' then pure none
          else match flagOf? c with
            | some flag => pure (some flag)
            | none => blame .flagUnknown span
        match items.find? (·.1 == item) with
        | some (_, other) =>
          throw ⟨if item.isNone then .negationTwice else .flagTwice, span, some other⟩
        | none =>
          if !(← bump) then blameHere .flagEnd
          readFlagItems fuel (items ++ [(item, span)])

/-- The change that switches make; those behind the sign are turned off. -/
private def changeOf (items : List FlagItem) : FlagChange :=
  let on := (items.takeWhile (·.1.isSome)).filterMap (·.1)
  let off := (items.dropWhile (·.1.isSome)).filterMap (·.1)
  on.map (·, true) ++ off.map (·, false)

/-- The opening of a group: a change of switches on its own, or what kind of group it is. -/
private inductive Opening
  | change (span : Span) (change : FlagChange)
  | capture (index : Nat)
  | flagged (change : FlagChange)

/-- Counts one more group with a number. -/
private def nextIndex : Scan Nat := do
  modify fun state => { state with groups := state.groups + 1 }
  return (← get).groups

/-- The beginnings of conditions on what surrounds a place. -/
private def readLookAround : Scan Bool := do
  if ← bumpIf "?=" then return true
  if ← bumpIf "?!" then return true
  if ← bumpIf "?<=" then return true
  bumpIf "?<!"

/-- Reads the opening of a group, the head being on the parenthesis. -/
private def readOpening : Scan Opening := do
  let start := (← get).place
  discard bump
  skipSpace
  if ← readLookAround then blameSince .lookAround start
  let inside := (← get).here
  if (← bumpIf "?P<") || (← bumpIf "?<") then
    let index ← nextIndex
    readName
    return .capture index
  else if ← bumpIf "?" then
    if (← get).head?.isNone then blame .groupUnclosed ⟨start, ⟨start.line, start.column + 1⟩⟩
    let items ← readFlagItems ((← get).rest.length + 1) []
    let closing := (← get).head? == some ')'
    discard bump
    if closing then
      if items.isEmpty then blame .nothingToRepeat inside
      return .change ((← get).since start) (changeOf items)
    else return .flagged (changeOf items)
  else return .capture (← nextIndex)

/-- The part that a repetition repeats, taken from the parts before it. -/
private def takeRepeated (items : List Written) : Scan (List Written × Written) := do
  match items.getLast? with
  | none => blameHere .nothingToRepeat
  | some (.nothing _) => blameHere .nothingToRepeat
  | some (.change ..) => blameHere .nothingToRepeat
  | some item => return (items.dropLast, item)

/-- Reads the sign that makes a repetition prefer fewer rounds. -/
private def readLazy : Scan Bool := do
  if (← get).head? == some '?' then
    discard bump
    return true
  else return false

/-- Puts a repetition in the place of the part that it repeats. -/
private def pushRepeated (before : List Written) (item : Written) (low : Nat) (high : Option Nat)
    (greedy : Bool) : Scan (List Written) := do
  return before ++ [.repeated ((← get).since item.span.start) low high greedy item]

/-- Reads a repetition of one character, the head being on it. -/
private def readShortCount (items : List Written) (low : Nat) (high : Option Nat) :
    Scan (List Written) := do
  let (before, item) ← takeRepeated items
  discard bump
  let fewer ← readLazy
  pushRepeated before item low high (!fewer)

/-- A count that was read, or its fault. -/
private def wanted (count : Except Fault Nat) : Scan Nat :=
  match count with
  | .ok value => return value
  | .error fault => throw fault

/-- Reads a repetition with counts, the head being on its opening brace. -/
private def readLongCount (items : List Written) : Scan (List Written) := do
  let start := (← get).place
  let (before, item) ← takeRepeated items
  if !(← step) then blameSince .countUnclosed start
  let low ← readCount
  if (← get).head?.isNone then blameSince .countUnclosed start
  let (least, most) ←
    if (← get).head? == some ',' then do
      if !(← step) then blameSince .countUnclosed start
      if (← get).head? == some '}' then
        pure (← wanted low, none)
      else
        let least ← wanted low
        let most ← wanted (← readCount)
        pure (least, some most)
    else do
      let exact ← wanted low
      pure (exact, some exact)
  if (← get).head? != some '}' then blameSince .countUnclosed start
  discard step
  let fewer ← readLazy
  if most.any (· < least) then blameSince .countOrder start
  pushRepeated before item least most (!fewer)

mutual

/-- Reads the branches of a group up to its end; the fuel bounds the depth of the reading. -/
private def readBranches (fuel : Nat) (start : Place) (done : List Written) : Scan Written := do
  match fuel with
  | 0 => blameHere .groupUnclosed
  | fuel + 1 =>
    let opened := (← get).place
    let items ← readItems fuel []
    let cursor ← get
    let branch := Written.ofItems (cursor.since opened) items
    if cursor.head? == some '|' then
      discard bump
      readBranches fuel start (done ++ [branch])
    else if done.isEmpty then return branch
    else return .either (cursor.since start) (done ++ [branch])

/-- Reads the parts of one branch up to its end. -/
private def readItems (fuel : Nat) (items : List Written) : Scan (List Written) := do
  match fuel with
  | 0 => blameHere .groupUnclosed
  | fuel + 1 =>
    skipSpace
    match (← get).head? with
    | none => return items
    | some ')' => return items
    | some '|' => return items
    | some '(' => do
      let item ← readGroup fuel
      readItems fuel (items ++ [item])
    | some '[' => do
      let item ← readBracket
      readItems fuel (items ++ [item])
    | some '?' => do
      let next ← readShortCount items 0 (some 1)
      readItems fuel next
    | some '*' => do
      let next ← readShortCount items 0 none
      readItems fuel next
    | some '+' => do
      let next ← readShortCount items 1 none
      readItems fuel next
    | some '{' => do
      let next ← readLongCount items
      readItems fuel next
    | some c => do
      let atom ← readAtom c
      readItems fuel (items ++ [atom.toWritten])

/-- Reads a group or a change of switches, the head being on the parenthesis. -/
private def readGroup (fuel : Nat) : Scan Written := do
  match fuel with
  | 0 => blameHere .groupUnclosed
  | fuel + 1 =>
    let cursor ← get
    let opened := cursor.headSpan
    match ← readOpening with
    | .change span change =>
      match lastValue? .spaced change with
      | some value => modify fun state => { state with spaced := value }
      | none => pure ()
      return .change span change
    | .capture index =>
      let (span, inner) ← readInside fuel cursor.spaced opened
      return .capture span index inner
    | .flagged change =>
      modify fun state => { state with spaced := (lastValue? .spaced change).getD state.spaced }
      let (span, inner) ← readInside fuel cursor.spaced opened
      return .flagged span change inner

/-- Reads what stands in a group, and its closing parenthesis. -/
private def readInside (fuel : Nat) (spaced : Bool) (opened : Span) : Scan (Span × Written) := do
  match fuel with
  | 0 => blameHere .groupUnclosed
  | fuel + 1 =>
    let inner ← readBranches fuel (← get).place []
    if (← get).head?.isNone then blame .groupUnclosed opened
    -- What does not count outside the group may count inside it, and the other way round.
    modify fun state => { state with spaced := spaced }
    discard bump
    return ((← get).since opened.start, inner)

end

/-- Reads a whole pattern. -/
private def readAll : Scan Written := do
  let cursor ← get
  let tree ← readBranches (4 * cursor.rest.length + 4) cursor.place []
  let after ← get
  if after.head?.isSome then blame .groupUnopened after.headSpan
  return tree

/-- The parts of a pattern, none of them nested too deeply. -/
def Written.parse (pattern : List Char) : Except Fault Written := do
  let (tree, _) ← readAll.run (.ofPattern pattern)
  tree.checkDepth 0
  return tree

end Placard.Pattern
