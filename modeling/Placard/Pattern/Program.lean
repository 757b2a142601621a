import Placard.Pattern.Basic

/-! Patterns as programs: instructions that read one character, test a place, or choose a way. -/

namespace Placard.Pattern

/-- An instruction; addresses count the instructions of a program from zero. -/
inductive Instruction
  /-- Reads one character of a set and goes on behind this instruction. -/
  | read (set : CharSet)
  /-- Goes on behind this instruction where a condition holds. -/
  | test (condition : Look)
  /-- Notes the place under a number and goes on behind this instruction. -/
  | note (slot : Nat)
  /-- Goes on at the first address, or else at the second. -/
  | choose (first second : Nat)
  /-- Goes on at an address. -/
  | jump (target : Nat)
  /-- Ends the match. -/
  | done
deriving Repr, Inhabited

/-- A choice between going on and leaving, in the order of preference. -/
def prefer (greedy : Bool) (inside outside : Nat) : Instruction :=
  if greedy then .choose inside outside else .choose outside inside

/-- Code copied a number of times, each copy written for its own address. -/
def copies (code : Nat → List Instruction) : Nat → Nat → List Instruction
  | 0, _ => []
  | count + 1, start =>
    let first := code start
    first ++ copies code count (start + first.length)

/-- Code that may be run a number of times more, where every further round may be left out. -/
def options (code : Nat → List Instruction) (greedy : Bool) : Nat → Nat → List Instruction
  | 0, _ => []
  | count + 1, start =>
    let first := code (start + 1)
    let rest := options code greedy count (start + 1 + first.length)
    prefer greedy (start + 1) (start + 1 + first.length + rest.length) :: (first ++ rest)

/-- Code that is run once or more. -/
def oneOrMore (code : Nat → List Instruction) (greedy : Bool) (start : Nat) : List Instruction :=
  let body := code start
  body ++ [prefer greedy start (start + body.length + 1)]

/-- Code that is run any number of times. -/
def anyNumber (code : Nat → List Instruction) (greedy mayBeEmpty : Bool) (start : Nat) :
    List Instruction :=
  let body := code (start + 1)
  if mayBeEmpty then
    -- A round without characters must not come before a choice that leaves the loop.
    let loop := oneOrMore code greedy (start + 1)
    prefer greedy (start + 1) (start + 1 + loop.length) :: loop
  else prefer greedy (start + 1) (start + body.length + 2) :: (body ++ [.jump start])

/-- The code of a pattern from an address on; it goes on behind its last instruction. -/
def code : Pattern → Nat → List Instruction
  | .nothing, _ => []
  | .one set, _ => [.read set]
  | .look condition, _ => [.test condition]
  | .sequence first second, start =>
    let before := first.code start
    before ++ second.code (start + before.length)
  | .either first second, start =>
    let left := first.code (start + 1)
    let right := second.code (start + left.length + 2)
    .choose (start + 1) (start + left.length + 2) ::
      (left ++ .jump (start + left.length + 2 + right.length) :: right)
  | .repeated low high greedy inner, start =>
    match high with
    | some most =>
      let least := copies inner.code low start
      least ++ options inner.code greedy (most - low) (start + least.length)
    | none =>
      match low with
      | 0 => anyNumber inner.code greedy inner.mayBeEmpty start
      | more + 1 =>
        let before := copies inner.code more start
        before ++ oneOrMore inner.code greedy (start + before.length)
  | .group index inner, start =>
    .note (2 * index) :: (inner.code (start + 1) ++ [.note (2 * index + 1)])

/-- The program of a whole pattern. -/
def program (pattern : Pattern) : Array Instruction :=
  (pattern.code 0 ++ [Instruction.done]).toArray

end Placard.Pattern
