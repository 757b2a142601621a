import Placard.Pattern.Program
import Std.Data.HashSet

/-! The leftmost match of a program in a text, with its groups.

All ways through the program are followed side by side, the preferred ones first, so that every
instruction is reached at most once at every place of the text. -/

namespace Placard.Pattern

/-- The places noted on a way, the latest first; the slot zero holds the start of the match. -/
abbrev Notes := List (Nat × Nat)

/-- A way through a program: the address that it has reached, and what it noted. -/
structure Thread where
  address : Nat
  notes : Notes
deriving Repr, Inhabited

/-- A place of a text: how many characters lie before it, and the characters at both sides. -/
structure Spot where
  offset : Nat
  before : Option Char
  after : Option Char
deriving DecidableEq, Repr, Inhabited

/-- Follows ways up to instructions that read or end, preferred ways first.

No address is passed twice, and `fresh` bounds the number of addresses that are still to be passed. -/
def settle (program : Array Instruction) (spot : Spot) (seen : Std.HashSet Nat) (fresh : Nat) :
    List Thread → List Thread
  | [] => []
  | thread :: pending =>
    if seen.contains thread.address then settle program spot seen fresh pending
    else match fresh with
      | 0 => []
      | fresh + 1 =>
        let seen := seen.insert thread.address
        let go (address : Nat) : Thread := ⟨address, thread.notes⟩
        match program[thread.address]? with
        | none => settle program spot seen fresh pending
        | some (.read _) => thread :: settle program spot seen fresh pending
        | some .done => thread :: settle program spot seen fresh pending
        | some (.test condition) =>
          if condition.holds spot.before spot.after then
            settle program spot seen fresh (go (thread.address + 1) :: pending)
          else settle program spot seen fresh pending
        | some (.note slot) =>
          settle program spot seen fresh
            (⟨thread.address + 1, (slot, spot.offset) :: thread.notes⟩ :: pending)
        | some (.choose first second) =>
          settle program spot seen fresh (go first :: go second :: pending)
        | some (.jump target) => settle program spot seen fresh (go target :: pending)
termination_by pending => (fresh, pending.length)

/-- The threads that come before the first one that ends, and the notes of that one. -/
def untilDone (program : Array Instruction) : List Thread → List Thread × Option Notes
  | [] => ([], none)
  | thread :: others =>
    match program[thread.address]? with
    | some .done => ([], some thread.notes)
    | _ =>
      let (before, found) := untilDone program others
      (thread :: before, found)

/-- The thread behind an instruction that reads a character. -/
def advance? (program : Array Instruction) (c : Char) (thread : Thread) : Option Thread :=
  match program[thread.address]? with
  | some (.read set) =>
    if set.contains c then some ⟨thread.address + 1, thread.notes⟩ else none
  | _ => none

/-- A match: where it starts and ends, and what was noted on the way. -/
structure Match where
  start : Nat
  stop : Nat
  notes : Notes
deriving Repr, Inhabited

/-- Goes on from a place with the threads that arrive there and the best match so far. -/
def searchFrom (program : Array Instruction) (best : Option Match) (arrivals : List Thread)
    (before : Option Char) (offset : Nat) (rest : List Char) : Option Match :=
  let spot : Spot := ⟨offset, before, rest.head?⟩
  -- As long as nothing is found, a match may also start here, after all that started earlier.
  let pending := if best.isSome then arrivals else arrivals ++ [⟨0, [(0, offset)]⟩]
  let (alive, ended) := untilDone program (settle program spot ∅ program.size pending)
  let found := match ended with
    | some notes => some ⟨(notes.getLast?.map (·.2)).getD offset, offset, notes⟩
    | none => best
  match rest with
  | [] => found
  | c :: others =>
    let next := alive.filterMap (advance? program c)
    if next.isEmpty && found.isSome then found
    else searchFrom program found next (some c) (offset + 1) others

/-- The leftmost match of a program in a text. -/
def search? (program : Array Instruction) (text : List Char) : Option Match :=
  searchFrom program none [] none 0 text

/-- The characters between two places. -/
def between (start stop : Nat) (text : List Char) : List Char :=
  (text.drop start).take (stop - start)

/-- The text of a whole match. -/
def Match.whole (found : Match) (text : List Char) : List Char :=
  between found.start found.stop text

/-- The text of a group, if the group took part in the match. -/
def Match.group? (found : Match) (index : Nat) (text : List Char) : Option (List Char) := do
  let start ← found.notes.lookup (2 * index)
  let stop ← found.notes.lookup (2 * index + 1)
  return between start stop text

end Placard.Pattern
