import Placard.Pattern.Basic

/-! The size of the machine that a pattern would need if it read bytes, which bounds what is accepted. -/

namespace Placard.Pattern

/-- The bytes that the states of a machine may take. -/
def sizeLimit : Nat := 10485760

/-- The bytes of one state without its ways onward. -/
private def stateSize : Nat := 32

/-- Ranges for each byte of the encodings of a range of characters. -/
private abbrev ByteRanges := List (Nat × Nat)

/-- The encoding of a code point in a given number of bytes, its first byte first. -/
private def encoding (length code : Nat) : List Nat :=
  match length with
  | 0 => []
  | 1 => [code]
  | _ =>
    let lead := if length == 2 then 0xC0 else if length == 3 then 0xE0 else 0xF0
    (lead + code / Nat.pow 64 (length - 1)) ::
      ((List.range (length - 1)).reverse.map fun place => 0x80 + code / Nat.pow 64 place % 64)

/-- The ranges of bytes that encode a range of code points of one length; fuel bounds the cuts. -/
private def byteRanges (fuel length low high : Nat) : List ByteRanges :=
  match fuel with
  | 0 => []
  | fuel + 1 =>
    -- A range is cut where its ends differ before a byte that is not free on both sides.
    let cut := ((List.range (length - 1)).map fun place => Nat.pow 64 (place + 1)).findSome? fun block =>
      if low / block == high / block then none
      else if low % block != 0 then some (low / block * block + block)
      else if high % block != block - 1 then some (high / block * block)
      else none
    match cut with
    | some middle => byteRanges fuel length low (middle - 1) ++ byteRanges fuel length middle high
    | none => [(encoding length low).zip (encoding length high)]

/-- The ranges of bytes that encode the characters of a set. -/
private def setRanges (set : CharSet) : List ByteRanges :=
  let blocks := [(1, 0, 0x7F), (2, 0x80, 0x7FF), (3, 0x800, 0xD7FF), (3, 0xE000, 0xFFFF),
    (4, 0x10000, 0x10FFFF)]
  set.ranges.flatMap fun (low, high) =>
    blocks.flatMap fun (length, first, last) =>
      if high < first || last < low then [] else byteRanges 64 length (max low first) (min high last)

/-- A state by its ways onward: a range of bytes, and the number of the next state. -/
private abbrev State := List ((Nat × Nat) × Nat)

/-- Ways in a list that begin alike, gathered by their first step. -/
private def gathered : List ByteRanges → List ((Nat × Nat) × List ByteRanges)
  | [] => []
  | [] :: others => gathered others
  | (first :: tail) :: others =>
    match gathered others with
    | (next, tails) :: more =>
      if next == first then (first, tail :: tails) :: more
      else (first, [tail]) :: (next, tails) :: more
    | [] => [(first, [tail])]

/-- Finds or adds the states for ways of a given length; equal states are kept once. -/
private def addState (depth : Nat) (ways : List ByteRanges) : StateM (Array State) Nat := do
  match depth with
  | 0 => return 0
  | depth + 1 =>
    let state ← (gathered ways).mapM fun (range, tails) => do
      return (range, ← addState depth (tails.filter (!·.isEmpty)))
    let states ← get
    match states.findIdx? (· == state) with
    | some index => return index + 1
    | none =>
      set (states.push state)
      return states.size + 1

/-- The bytes for the states that read one character of a set. -/
private def setSize (set : CharSet) : Nat :=
  let sizeOf (ways : Nat) := stateSize + (if ways ≤ 1 then 0 else 8 * ways)
  match set.ranges with
  | [(low, high)] =>
    if low == high then stateSize * (String.singleton (.ofNat low)).utf8ByteSize
    else if high < 0x80 then 2 * stateSize
    else many sizeOf
  | ranges =>
    if ranges.all (·.2 < 0x80) then stateSize + sizeOf ranges.length else many sizeOf
where
  /-- The bytes where characters of several lengths have to be told apart. -/
  many (sizeOf : Nat → Nat) : Nat :=
    let (_, states) := (addState 4 (setRanges set)).run #[]
    states.foldl (fun total state => total + sizeOf state.length) stateSize

/-- The bytes for the states of a pattern. -/
def size : Pattern → Nat
  | nothing => stateSize
  | one set => setSize set
  | look _ => stateSize
  | sequence first second => first.size + second.size
  | either first second => first.size + second.size + 2 * stateSize
  | repeated low high _ inner =>
    let own := inner.size
    match high with
    | none => max low 1 * own + 3 * stateSize
    | some most => low * own + (most - low) * (own + stateSize + 8) + stateSize
  | group _ inner => inner.size + 2 * stateSize

end Placard.Pattern
