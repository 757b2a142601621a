import Placard.Pattern.Fault

/-! Patterns as they are written: every part with the place where it stands. -/

namespace Placard.Pattern

/-- A character of a pattern; one written as two hexadecimal digits may stand for a byte. -/
structure Letter where
  span : Span
  char : Char
  isByte : Bool
deriving Repr, Inhabited

/-- The classes with a letter of their own. -/
inductive ShortClass
  | digit
  | space
  | word
deriving DecidableEq, Repr, Inhabited

/-- A class of characters that has a name. -/
inductive NamedClass
  | short (kind : ShortClass)
  | posix (name : String)
  | property (name : String) (value : Option String)
deriving DecidableEq, Repr, Inhabited

/-- What is done with the classes on two sides of an operator. -/
inductive ClassOperation
  | intersection
  | difference
  | symmetricDifference
deriving DecidableEq, Repr, Inhabited

/-- A class of characters as it is written between brackets. -/
inductive ClassTree
  | nothing (span : Span)
  | letter (letter : Letter)
  | range (span : Span) (low high : Letter)
  | named (span : Span) (name : NamedClass) (negated : Bool)
  | bracket (span : Span) (negated : Bool) (inner : ClassTree)
  | union (span : Span) (items : List ClassTree)
  | combine (span : Span) (operation : ClassOperation) (left right : ClassTree)
deriving Repr, Inhabited

/-- The switches that change what the parts of a pattern mean. -/
inductive Flag
  | ignoreCase
  | manyLines
  | dotAll
  | swapGreed
  | unicode
  | crlf
  | spaced
deriving DecidableEq, Repr, Inhabited

/-- Switches turned on or off, in the order in which they are written. -/
abbrev FlagChange := List (Flag × Bool)

/-- Conditions on a place in a text. -/
inductive AssertionKind
  | lineStart
  | lineEnd
  | textStart
  | textEnd
  | boundary
  | noBoundary
  | wordStart
  | wordEnd
  | wordStartHalf
  | wordEndHalf
deriving DecidableEq, Repr, Inhabited

/-- A pattern as it is written. -/
inductive Written
  | nothing (span : Span)
  | change (span : Span) (change : FlagChange)
  | letter (letter : Letter)
  | dot (span : Span)
  | assertion (span : Span) (kind : AssertionKind)
  | named (span : Span) (name : NamedClass) (negated : Bool)
  | bracket (span : Span) (negated : Bool) (inner : ClassTree)
  | repeated (span : Span) (low : Nat) (high : Option Nat) (greedy : Bool) (inner : Written)
  | capture (span : Span) (index : Nat) (inner : Written)
  | flagged (span : Span) (change : FlagChange) (inner : Written)
  | either (span : Span) (branches : List Written)
  | sequence (span : Span) (items : List Written)
deriving Repr, Inhabited

/-- The part of the pattern in which a class stands. -/
def ClassTree.span : ClassTree → Span
  | nothing span => span
  | letter held => held.span
  | range span .. => span
  | named span .. => span
  | bracket span .. => span
  | union span _ => span
  | combine span .. => span

/-- The part of the pattern in which a written part stands. -/
def Written.span : Written → Span
  | nothing span => span
  | change span _ => span
  | letter held => held.span
  | dot span => span
  | assertion span _ => span
  | named span .. => span
  | bracket span .. => span
  | repeated span .. => span
  | capture span .. => span
  | flagged span .. => span
  | either span _ => span
  | sequence span _ => span

/-- One item stands for itself, and several for their sequence. -/
def Written.ofItems (span : Span) : List Written → Written
  | [] => nothing span
  | [only] => only
  | items => sequence span items

/-- The last value that a change gives to a switch. -/
def lastValue? (flag : Flag) (change : FlagChange) : Option Bool :=
  (change.reverse.find? (·.1 == flag)).map (·.2)

/-! ### Depth -/

/-- One level deeper, unless that is too deep. -/
private def deeper (depth : Nat) (span : Span) : Except Fault Nat :=
  if depth < depthLimit then .ok (depth + 1) else .error ⟨.tooDeep, span, none⟩

mutual

/-- Checks that classes are not nested too deeply. -/
def ClassTree.checkDepth (depth : Nat) : ClassTree → Except Fault Unit
  | .bracket span _ inner => do inner.checkDepth (← deeper depth span)
  | .union span items => do checkClassDepths (← deeper depth span) items
  | .combine span _ left right => do
    let inside ← deeper depth span
    left.checkDepth inside
    right.checkDepth inside
  | _ => .ok ()

/-- Checks the depth of each class in a list. -/
def checkClassDepths (depth : Nat) : List ClassTree → Except Fault Unit
  | [] => .ok ()
  | item :: others => do item.checkDepth depth; checkClassDepths depth others

end

mutual

/-- Checks that the parts of a pattern are not nested too deeply. -/
def Written.checkDepth (depth : Nat) : Written → Except Fault Unit
  | .bracket span _ inner => do inner.checkDepth (← deeper depth span)
  | .repeated span _ _ _ inner => do inner.checkDepth (← deeper depth span)
  | .capture span _ inner => do inner.checkDepth (← deeper depth span)
  | .flagged span _ inner => do inner.checkDepth (← deeper depth span)
  | .either span branches => do checkDepths (← deeper depth span) branches
  | .sequence span items => do checkDepths (← deeper depth span) items
  | _ => .ok ()

/-- Checks the depth of each part in a list. -/
def checkDepths (depth : Nat) : List Written → Except Fault Unit
  | [] => .ok ()
  | item :: others => do item.checkDepth depth; checkDepths depth others

end

end Placard.Pattern
