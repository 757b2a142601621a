import Placard.Text.Split

/-! What can be wrong with a pattern, and the drawing that shows where it is wrong. -/

namespace Placard.Pattern

/-- A place in a pattern: its line and its column, both counted from one. -/
structure Place where
  line : Nat
  column : Nat
deriving DecidableEq, Repr, Inhabited

/-- The part of a pattern from one place up to another. -/
structure Span where
  start : Place
  stop : Place
deriving DecidableEq, Repr, Inhabited

/-- Why a pattern has no meaning. -/
inductive Cause
  | classEscape
  | classRange
  | classRangeEnd
  | classUnclosed
  | decimalInvalid
  | hexEmpty
  | hexNoCharacter
  | hexDigit
  | escapeEnd
  | escapeUnknown
  | flagDangling
  | flagTwice
  | negationTwice
  | flagEnd
  | flagUnknown
  | nameTwice
  | nameEmpty
  | nameCharacter
  | nameEnd
  | groupUnclosed
  | groupUnopened
  | tooDeep
  | countOrder
  | countEmpty
  | countUnclosed
  | nothingToRepeat
  | boundaryUnclosed
  | boundaryUnknown
  | boundaryEnd
  | classLetter
  | backReference
  | lookAround
  | noUnicode
  | notUtf8
  | propertyUnknown
  | propertyValueUnknown
deriving DecidableEq, Repr, Inhabited

/-- The levels of nesting that a pattern may have. -/
def depthLimit : Nat := 250

/-- The wording of a cause. -/
def Cause.message : Cause → String
  | classEscape => "invalid escape sequence found in character class"
  | classRange => "invalid character class range, the start must be <= the end"
  | classRangeEnd => "invalid range boundary, must be a literal"
  | classUnclosed => "unclosed character class"
  | decimalInvalid => "decimal literal invalid"
  | hexEmpty => "hexadecimal literal empty"
  | hexNoCharacter => "hexadecimal literal is not a Unicode scalar value"
  | hexDigit => "invalid hexadecimal digit"
  | escapeEnd => "incomplete escape sequence, reached end of pattern prematurely"
  | escapeUnknown => "unrecognized escape sequence"
  | flagDangling => "dangling flag negation operator"
  | flagTwice => "duplicate flag"
  | negationTwice => "flag negation operator repeated"
  | flagEnd => "expected flag but got end of regex"
  | flagUnknown => "unrecognized flag"
  | nameTwice => "duplicate capture group name"
  | nameEmpty => "empty capture group name"
  | nameCharacter => "invalid capture group character"
  | nameEnd => "unclosed capture group name"
  | groupUnclosed => "unclosed group"
  | groupUnopened => "unopened group"
  | tooDeep =>
    "exceed the maximum number of nested parentheses/brackets (" ++ toString depthLimit ++ ")"
  | countOrder => "invalid repetition count range, the start must be <= the end"
  | countEmpty => "repetition quantifier expects a valid decimal"
  | countUnclosed => "unclosed counted repetition"
  | nothingToRepeat => "repetition operator missing expression"
  | boundaryUnclosed =>
    "special word boundary assertion is either unclosed or contains an invalid character"
  | boundaryUnknown =>
    "unrecognized special word boundary assertion, valid choices are: start, end, start-half or end-half"
  | boundaryEnd =>
    "found either the beginning of a special word boundary or a bounded repetition on a \\b with " ++
      "an opening brace, but no closing brace"
  | classLetter => "invalid Unicode character class"
  | backReference => "backreferences are not supported"
  | lookAround => "look-around, including look-ahead and look-behind, is not supported"
  | noUnicode => "Unicode not allowed here"
  | notUtf8 => "pattern can match invalid UTF-8"
  | propertyUnknown => "Unicode property not found"
  | propertyValueUnknown => "Unicode property value not found"

/-- A fault is a cause with the part of the pattern to blame, and the part that it clashes with. -/
structure Fault where
  cause : Cause
  span : Span
  other : Option Span
deriving DecidableEq, Repr, Inhabited

/-- A span that ends on the line on which it starts. -/
private def Span.onOneLine (span : Span) : Bool :=
  span.start.line == span.stop.line

/-- A span starts before another in the text. -/
private def Span.precedes (left right : Span) : Bool :=
  left.start.line < right.start.line ||
    (left.start.line == right.start.line && left.start.column ≤ right.start.column)

/-- Spans in the order of their places. -/
private def inOrder : List Span → List Span
  | [first, second] => if first.precedes second then [first, second] else [second, first]
  | spans => spans

/-- Marks under the characters of spans on one line, from a column on. -/
private def marks (column : Nat) : List Span → String
  | [] => ""
  | span :: others =>
    let width := max 1 (span.stop.column - span.start.column)
    let blanks := span.start.column - 1 - column
    .ofList (List.replicate blanks ' ' ++ List.replicate width '^') ++
      marks (column + blanks + width) others

/-- The lines of a pattern, each without the character or the pair that ends it. -/
private def patternLines (pattern : String) : List String :=
  (Text.lines pattern).map fun line =>
    match line.toList.reverse with
    | '\r' :: rest => .ofList rest.reverse
    | _ => line

/-- A line of the drawing: the line of the pattern, and marks where spans lie on it. -/
private def drawLine (width padding : Nat) (spans : List Span) (line : String) (index : Nat) : String :=
  let number := toString (index + 1)
  let left :=
    if width == 0 then "    "
    else .ofList (List.replicate (width - number.length) ' ') ++ number ++ ": "
  let here := spans.filter fun span => span.onOneLine && span.start.line == index + 1
  let under :=
    if here.isEmpty then "" else .ofList (List.replicate padding ' ') ++ marks 0 here ++ "\n"
  left ++ line ++ "\n" ++ under

/-- Where a span over several lines starts and ends. -/
private def farNote (span : Span) : String :=
  "on line " ++ toString span.start.line ++ " (column " ++ toString span.start.column ++
    ") through line " ++ toString span.stop.line ++ " (column " ++ toString (span.stop.column - 1) ++ ")"

/-- The wording of a fault, with a drawing of the pattern. -/
def Fault.message (fault : Fault) (pattern : String) : String :=
  let lines := patternLines pattern
  -- A place may lie after the last line end, where no line is left to be drawn.
  let count := lines.length + (if pattern.toList.getLast? == some '\n' then 1 else 0)
  let width := if count ≤ 1 then 0 else (toString count).length
  let padding := if width == 0 then 4 else 2 + width
  let spans := inOrder (fault.span :: fault.other.toList)
  let drawn := String.join (lines.zipIdx.map fun (line, index) => drawLine width padding spans line index)
  let far := spans.filter (!·.onOneLine)
  let divider := .ofList (List.replicate 79 '~') ++ "\n"
  let body :=
    if pattern.toList.contains '\n' then
      divider ++ drawn ++ divider ++
        (if far.isEmpty then "" else Text.joinWith "\n" (far.map farNote) ++ "\n")
    else drawn
  "regex parse error:\n" ++ body ++ "error: " ++ fault.cause.message

end Placard.Pattern
