import Placard.Text.Split

/-! Sets of characters, held as ranges of code points in rising order. -/

namespace Placard

/-- A set of code points; its ranges rise, and no two of them overlap or touch. -/
structure CharSet where
  ranges : List (Nat × Nat)
deriving DecidableEq, Repr, Inhabited

namespace CharSet

/-- The largest code point. -/
def last : Nat := 0x10FFFF

/-- The set without elements. -/
def empty : CharSet := ⟨[]⟩

/-- The set of all code points. -/
def all : CharSet := ⟨[(0, last)]⟩

/-- The set of one code point. -/
def single (code : Nat) : CharSet := ⟨[(code, code)]⟩

/-- A code point belongs to the set when a range holds it. -/
def holds (set : CharSet) (code : Nat) : Bool :=
  search set.ranges
where
  /-- Ranges rise, so the search ends at the first one above the code point. -/
  search : List (Nat × Nat) → Bool
    | [] => false
    | (low, high) :: others => if code < low then false else code ≤ high || search others

/-- A character belongs to the set when its code point does. -/
def contains (set : CharSet) (c : Char) : Bool :=
  set.holds c.toNat

/-- The set has no elements. -/
def isEmpty (set : CharSet) : Bool :=
  set.ranges.isEmpty

/-- Joins rising ranges that overlap or touch. -/
private def merge : List (Nat × Nat) → List (Nat × Nat)
  | [] => []
  | (low, high) :: others =>
    -- The first range grows as long as the next one starts inside it or right after it.
    match merge others with
    | [] => [(low, high)]
    | (nextLow, nextHigh) :: rest =>
      if nextLow ≤ high + 1 then (low, max high nextHigh) :: rest
      else (low, high) :: (nextLow, nextHigh) :: rest

/-- The set of the code points of any ranges, in any order. -/
def ofRanges (ranges : List (Nat × Nat)) : CharSet :=
  ⟨merge (ranges.mergeSort fun left right => left.1 ≤ right.1)⟩

/-- The code points of either set. -/
def union (left right : CharSet) : CharSet :=
  ofRanges (left.ranges ++ right.ranges)

/-- The gaps between rising ranges, from a given code point on. -/
private def gaps (start : Nat) : List (Nat × Nat) → List (Nat × Nat)
  | [] => if start ≤ last then [(start, last)] else []
  | (low, high) :: others =>
    if start < low then (start, low - 1) :: gaps (high + 1) others else gaps (high + 1) others

/-- The code points that do not belong to the set. -/
def complement (set : CharSet) : CharSet :=
  ⟨gaps 0 set.ranges⟩

/-- The code points of both sets. -/
def inter (left right : CharSet) : CharSet :=
  (left.complement.union right.complement).complement

/-- The code points of the first set that are not in the second. -/
def diff (left right : CharSet) : CharSet :=
  left.inter right.complement

/-- The code points of exactly one of the sets. -/
def symmDiff (left right : CharSet) : CharSet :=
  (left.diff right).union (right.diff left)

/-- The value of a hexadecimal digit. -/
def hexDigit (c : Char) : Nat :=
  if c.isDigit then c.toNat - 48
  else if 'a' ≤ c && c ≤ 'f' then c.toNat - 87
  else c.toNat - 55

/-- The number that hexadecimal digits denote. -/
def hexNumber (digits : List Char) : Nat :=
  digits.foldl (fun value c => value * 16 + hexDigit c) 0

/-- The words of a table, which stand between blanks and line ends. -/
def tableWords (table : String) : List (List Char) :=
  (Text.pieces (fun c => c == ' ' || c == '\n') table.toList).filter (!·.isEmpty)

/-- The range that a word writes: one bound, or two with a dash between them. -/
private def readRange (word : List Char) : Nat × Nat :=
  match Text.pieces (· == '-') word with
  | [low, high] => (hexNumber low, hexNumber high)
  | _ => (hexNumber word, hexNumber word)

/-- The set that a table of ranges writes out. -/
def ofTable (table : String) : CharSet :=
  ⟨(tableWords table).map readRange⟩

end CharSet

end Placard
