import Placard.Unicode.Category
import Placard.Unicode.Property

/-! Patterns by their meaning: sets of characters, conditions, choices, repetitions and groups. -/

namespace Placard

/-- A condition on the two characters around a place of a text. -/
inductive Look
  | textStart
  | textEnd
  | lineStart
  | lineEnd
  /-- Here a carriage return ends a line too, and with a line feed behind it ends it once. -/
  | lineStartCrlf
  | lineEndCrlf
  | boundary (unicode : Bool)
  | noBoundary (unicode : Bool)
  | wordStart (unicode : Bool)
  | wordEnd (unicode : Bool)
  | wordStartHalf (unicode : Bool)
  | wordEndHalf (unicode : Bool)
deriving DecidableEq, Repr, Inhabited

/-- A pattern. -/
inductive Pattern
  | nothing
  | one (set : CharSet)
  | look (condition : Look)
  | sequence (first second : Pattern)
  | either (first second : Pattern)
  | repeated (low : Nat) (high : Option Nat) (greedy : Bool) (inner : Pattern)
  | group (index : Nat) (inner : Pattern)
deriving Repr, Inhabited

/-- The characters of words in any script. -/
def wordLetters : CharSet :=
  let property (name : String) := (Unicode.property? name).getD .empty
  (property "alphabetic").union ((Unicode.joined ["mn", "mc", "me", "nd", "pc"]).union
    (property "joincontrol"))

/-- The characters of words in ASCII. -/
def asciiWordLetters : CharSet :=
  .ofRanges [('0'.toNat, '9'.toNat), ('A'.toNat, 'Z'.toNat), ('_'.toNat, '_'.toNat),
    ('a'.toNat, 'z'.toNat)]

/-- A character belongs to a word. -/
def isWordLetter (unicode : Bool) (c : Char) : Bool :=
  -- Of ASCII both kinds of words have the same characters.
  if c.toNat < 0x80 then c.isAlphanum || c == '_'
  else unicode && wordLetters.contains c

/-- A condition holds between two characters, of which the text may lack either. -/
def Look.holds (look : Look) (before after : Option Char) : Bool :=
  let word (unicode : Bool) (side : Option Char) := side.any (isWordLetter unicode)
  match look with
  | textStart => before.isNone
  | textEnd => after.isNone
  | lineStart => before.isNone || before == some '\n'
  | lineEnd => after.isNone || after == some '\n'
  | lineStartCrlf =>
    before.isNone || before == some '\n' || (before == some '\r' && after != some '\n')
  | lineEndCrlf =>
    after.isNone || after == some '\r' || (after == some '\n' && before != some '\r')
  | boundary unicode => word unicode before != word unicode after
  | noBoundary unicode => word unicode before == word unicode after
  | wordStart unicode => !word unicode before && word unicode after
  | wordEnd unicode => word unicode before && !word unicode after
  | wordStartHalf unicode => !word unicode before
  | wordEndHalf unicode => !word unicode after

namespace Pattern

/-- A pattern matches nothing but the empty text, if it matches at all. -/
def isThin : Pattern → Bool
  | nothing => true
  | one _ => false
  | look _ => true
  | sequence first second => first.isThin && second.isThin
  | either first second => first.isThin && second.isThin
  | repeated _ _ _ inner => inner.isThin
  | group _ inner => inner.isThin

/-- A pattern may match the empty text. -/
def mayBeEmpty : Pattern → Bool
  | nothing => true
  | one _ => false
  | look _ => true
  | sequence first second => first.mayBeEmpty && second.mayBeEmpty
  | either first second => first.mayBeEmpty || second.mayBeEmpty
  | repeated low _ _ inner => low == 0 || inner.mayBeEmpty
  | group _ inner => inner.mayBeEmpty

/-- A repetition; more than one round of a thin pattern adds nothing. -/
def times (low : Nat) (high : Option Nat) (greedy : Bool) (inner : Pattern) : Pattern :=
  let (least, most) :=
    if inner.isThin then (min low 1, some (min (high.getD 1) 1)) else (low, high)
  if least == 0 && most == some 0 then nothing
  else if least == 1 && most == some 1 then inner
  else repeated least most greedy inner

/-- Patterns one after another. -/
def ofSequence : List Pattern → Pattern
  | [] => nothing
  | [only] => only
  | first :: others => sequence first (ofSequence others)

/-- Patterns of which the first that fits is preferred. -/
def ofBranches : List Pattern → Pattern
  | [] => nothing
  | [only] => only
  | first :: others => either first (ofBranches others)

end Pattern

end Placard
