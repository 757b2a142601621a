import Placard.Duration
import Placard.Text.Blank

/-! Spans of time as people write them: numbers with units, such as `1h 30m` or `1.5s`. -/

namespace Placard.Duration

/-- The words for each unit, with its length in seconds, or in parts of a second. -/
def longUnits : List (List String × Nat) := [
  (["seconds", "second", "secs", "sec", "s"], 1),
  (["minutes", "minute", "min", "mins", "m"], 60),
  (["hours", "hour", "hr", "hrs", "h"], 3600),
  (["days", "day", "d"], 86400),
  (["weeks", "week", "wk", "wks", "w"], 604800),
  (["months", "month", "M"], 2630016),
  (["years", "year", "yr", "yrs", "y"], 31557600)]

/-- The words for the units below a second, with their lengths in nanoseconds. -/
def shortUnits : List (List String × Nat) := [
  (["nanos", "nsec", "ns"], 1),
  (["usec", "us", "µs"], 1000),
  (["millis", "msec", "ms"], 1000000)]

/-- A letter of a unit. -/
def isUnitLetter (c : Char) : Bool := c.isAlpha || c == 'µ'

/-- A number within the range of a word. -/
private def inWord (value : Nat) : Option Nat :=
  if value ≤ largestWord then some value else none

/-- Adds seconds and nanoseconds to a span, all of whose parts must fit a word. -/
private def plus (total : Duration) (seconds nanoseconds : Nat) : Option Duration := do
  let fine ← inWord (total.nanoseconds % 1_000_000_000 + nanoseconds)
  let _ ← inWord (total.seconds + seconds + fine / 1_000_000_000)
  return ⟨total.nanoseconds + seconds * 1_000_000_000 + nanoseconds⟩

/-- A part of a unit, as a numerator and a denominator. -/
structure Part where
  numerator : Nat
  denominator : Nat
deriving DecidableEq, Repr, Inhabited

/-- Adds a number of units, and a part of one, to a span. -/
private def add (total : Duration) (count : Nat) (part : Option Part) (unit : String) :
    Option Duration := do
  match longUnits.find? (·.1.contains unit) with
  | some (_, length) =>
    let whole ← plus total (← inWord (count * length)) 0
    match part with
    | none => return whole
    | some part =>
      -- The part of a minute and of less is counted in nanoseconds, that of more in seconds.
      if length ≤ 60 then
        plus whole 0 ((← inWord (part.numerator * (length * 1_000_000_000))) / part.denominator)
      else plus whole ((← inWord (part.numerator * length)) / part.denominator) 0
  | none =>
    let (_, length) ← shortUnits.find? (·.1.contains unit)
    let whole ← plus total 0 (← inWord (count * length))
    match part with
    | none => return whole
    | some part =>
      if length == 1 then none
      else plus whole 0 ((← inWord (part.numerator * length)) / part.denominator)

/-- What the digits after a point make of a part so far; both of its sides must fit a word. -/
private def Part.next (part : Part) (digit : Nat) : Option Part := do
  return ⟨← inWord (part.numerator * 10 + digit), ← inWord (part.denominator * 10)⟩

/-- Where the reading of a span stands. -/
private inductive Stage
  | awaited
  | whole (count : Nat)
  | part (count : Nat) (part : Part)
  | unit (count : Nat) (part : Option Part) (letters : List Char)

/-- The digit that a character is. -/
private def digitOf (c : Char) : Nat := c.toNat - '0'.toNat

/-- Reads numbers with their units up to the end of a text. -/
private def readSpan (total : Duration) : Stage → List Char → Option Duration
  | .awaited, [] => some total
  | .awaited, c :: rest =>
    if c.isDigit then readSpan total (.whole (digitOf c)) rest
    else if Text.isBlank c then readSpan total .awaited rest
    else none
  -- A number without a unit is no span.
  | .whole _, [] => none
  | .whole count, c :: rest =>
    if c.isDigit then
      if count * 10 + digitOf c ≤ largestWord then
        readSpan total (.whole (count * 10 + digitOf c)) rest
      else none
    else if Text.isBlank c then readSpan total (.whole count) rest
    else if isUnitLetter c then readSpan total (.unit count none [c]) rest
    else if c == '.' then readSpan total (.part count ⟨0, 1⟩) rest
    else none
  | .part _ _, [] => none
  | .part count part, c :: rest =>
    if c.isDigit then
      match part.next (digitOf c) with
      | some next => readSpan total (.part count next) rest
      | none => none
    else if Text.isBlank c then readSpan total (.part count part) rest
    else if isUnitLetter c && part.denominator != 1 then
      readSpan total (.unit count (some part) [c]) rest
    else none
  | .unit count part letters, [] => add total count part (.ofList letters)
  | .unit count part letters, c :: rest =>
    if isUnitLetter c then readSpan total (.unit count part (letters ++ [c])) rest
    else match add total count part (.ofList letters) with
      | none => none
      | some next =>
        if c.isDigit then readSpan next (.whole (digitOf c)) rest
        else if Text.isBlank c then readSpan next .awaited rest
        else none

/-- The span of time that a text writes; a lone zero needs no unit. -/
def ofText? (text : String) : Option Duration :=
  if text == "0" then some ⟨0⟩
  else if Text.allBlank text then none
  else readSpan ⟨0⟩ .awaited text.toList

end Placard.Duration
