import Placard.Proofs.Pattern.Spans

/-! Programs of patterns: what a program runs through is what its pattern matches. -/

namespace Placard.Pattern

/-- A place of a text with the characters around it. -/
def Spot.ofPlace (text : List Char) (place : Nat) : Spot := ⟨place, charBefore? text place, text[place]?⟩

/-- One step of a program that reads nothing: from an address to another, and what is noted. -/
inductive Skips (program : Array Instruction) (spot : Spot) : Nat → Nat → Notes → Prop
  | test {address : Nat} {condition : Look} (here : program[address]? = some (.test condition))
      (holds : condition.holds spot.before spot.after = true) : Skips program spot address (address + 1) []
  | note {address slot : Nat} (here : program[address]? = some (.note slot)) :
      Skips program spot address (address + 1) [(slot, spot.offset)]
  | first {address first second : Nat} (here : program[address]? = some (.choose first second)) :
      Skips program spot address first []
  | second {address first second : Nat} (here : program[address]? = some (.choose first second)) :
      Skips program spot address second []
  | jump {address target : Nat} (here : program[address]? = some (.jump target)) :
      Skips program spot address target []

/-- A number of steps leads from an address, at a place of a text, to the end of a match. -/
inductive Runs (program : Array Instruction) (text : List Char) : Nat → Nat → Nat → Nat → Notes → Prop
  | done {address place : Nat} (here : program[address]? = some .done) :
      Runs program text 0 address place place []
  | read {steps address place stop : Nat} {set : CharSet} {c : Char} {notes : Notes}
      (here : program[address]? = some (.read set)) (stands : text[place]? = some c)
      (among : set.contains c = true) (rest : Runs program text steps (address + 1) (place + 1) stop notes) :
      Runs program text (steps + 1) address place stop notes
  | skip {steps address next place stop : Nat} {noted notes : Notes}
      (step : Skips program (.ofPlace text place) address next noted)
      (rest : Runs program text steps next place stop notes) :
      Runs program text (steps + 1) address place stop (notes ++ noted)

/-- Code stands in a program from an address on. -/
def StandsAt (program : Array Instruction) (start : Nat) (code : List Instruction) : Prop :=
  ∀ (index : Nat) (instruction : Instruction), code[index]? = some instruction →
    program[start + index]? = some instruction

section

variable {program : Array Instruction} {text : List Char} {steps address place stop : Nat} {notes : Notes}

/-! ### What an instruction does -/

/-- Where a match ends, a run ends. -/
theorem runs_done (here : program[address]? = some .done) :
    Runs program text steps address place stop notes ↔ steps = 0 ∧ stop = place ∧ notes = [] := by
  constructor
  · intro runs
    cases runs with
    | done => exact ⟨rfl, rfl, rfl⟩
    | read other => simp [here] at other
    | skip step => cases step <;> simp_all
  · rintro ⟨rfl, rfl, rfl⟩
    exact .done here

/-- Where a character is read, a run goes on behind it. -/
theorem runs_read {set : CharSet} (here : program[address]? = some (.read set)) :
    Runs program text steps address place stop notes ↔ ∃ fewer c, steps = fewer + 1 ∧
      text[place]? = some c ∧ set.contains c = true ∧
      Runs program text fewer (address + 1) (place + 1) stop notes := by
  constructor
  · intro runs
    cases runs with
    | done other => simp [here] at other
    | read other stands among rest =>
      rw [here, Option.some.injEq, Instruction.read.injEq] at other
      exact ⟨_, _, rfl, stands, other ▸ among, rest⟩
    | skip step => cases step <;> simp_all
  · rintro ⟨fewer, c, rfl, stands, among, rest⟩
    exact .read here stands among rest

/-- Where nothing is read and the match does not end, a run goes on from an address that is next. -/
theorem runs_skip {nexts : Nat → Notes → Prop}
    (only : ∀ next noted, Skips program (.ofPlace text place) address next noted ↔ nexts next noted)
    (reads : ∀ set, program[address]? ≠ some (.read set)) (going : program[address]? ≠ some .done) :
    Runs program text steps address place stop notes ↔ ∃ fewer next noted later, steps = fewer + 1 ∧
      nexts next noted ∧ Runs program text fewer next place stop later ∧ notes = later ++ noted := by
  constructor
  · intro runs
    cases runs with
    | done other => exact absurd other going
    | read other => exact absurd other (reads _)
    | skip step rest => exact ⟨_, _, _, _, rfl, (only _ _).mp step, rest, rfl⟩
  · rintro ⟨fewer, next, noted, later, rfl, step, rest, rfl⟩
    exact .skip ((only _ _).mpr step) rest

/-- Where a condition is tested, a run goes on if it holds. -/
theorem runs_test {condition : Look} (here : program[address]? = some (.test condition)) :
    Runs program text steps address place stop notes ↔ ∃ fewer, steps = fewer + 1 ∧
      condition.holds (charBefore? text place) text[place]? = true ∧
      Runs program text fewer (address + 1) place stop notes := by
  have only : ∀ next noted, Skips program (.ofPlace text place) address next noted ↔
      condition.holds (charBefore? text place) text[place]? = true ∧ next = address + 1 ∧ noted = [] := by
    intro next noted
    constructor
    · intro step
      cases step <;> simp_all [Spot.ofPlace]
    · rintro ⟨holds, rfl, rfl⟩
      exact .test here holds
  rw [runs_skip only (by simp [here]) (by simp [here])]
  simp only [and_assoc, exists_and_left, exists_eq_left, List.append_nil, exists_eq_right']

/-- Where a place is noted, a run goes on with the note. -/
theorem runs_note {slot : Nat} (here : program[address]? = some (.note slot)) :
    Runs program text steps address place stop notes ↔ ∃ fewer later, steps = fewer + 1 ∧
      Runs program text fewer (address + 1) place stop later ∧ notes = later ++ [(slot, place)] := by
  have only : ∀ next noted, Skips program (.ofPlace text place) address next noted ↔
      next = address + 1 ∧ noted = [(slot, place)] := by
    intro next noted
    constructor
    · intro step
      cases step <;> simp_all [Spot.ofPlace]
    · rintro ⟨rfl, rfl⟩
      exact .note here
  rw [runs_skip only (by simp [here]) (by simp [here])]
  simp only [and_assoc, exists_and_left, exists_eq_left]

/-- Where there are two ways, a run goes on on either. -/
theorem runs_choose {first second : Nat} (here : program[address]? = some (.choose first second)) :
    Runs program text steps address place stop notes ↔ ∃ fewer, steps = fewer + 1 ∧
      (Runs program text fewer first place stop notes ∨ Runs program text fewer second place stop notes) := by
  have only : ∀ next noted, Skips program (.ofPlace text place) address next noted ↔
      (next = first ∨ next = second) ∧ noted = [] := by
    intro next noted
    constructor
    · intro step
      cases step <;> simp_all
    · rintro ⟨rfl | rfl, rfl⟩
      · exact .first here
      · exact .second here
  rw [runs_skip only (by simp [here]) (by simp [here])]
  simp only [or_and_right, exists_or, and_or_left]
  simp only [and_assoc, exists_and_left, exists_eq_left, List.append_nil, exists_eq_right']

/-- Behind a jump, a run goes on from its target. -/
theorem runs_jump {target : Nat} (here : program[address]? = some (.jump target)) :
    Runs program text steps address place stop notes ↔ ∃ fewer, steps = fewer + 1 ∧
      Runs program text fewer target place stop notes := by
  have only : ∀ next noted, Skips program (.ofPlace text place) address next noted ↔
      next = target ∧ noted = [] := by
    intro next noted
    constructor
    · intro step
      cases step <;> simp_all
    · rintro ⟨rfl, rfl⟩
      exact .jump here
  rw [runs_skip only (by simp [here]) (by simp [here])]
  simp only [and_assoc, exists_and_left, exists_eq_left, List.append_nil, exists_eq_right']

/-- Whichever way is preferred, a run goes on on either. -/
theorem runs_prefer {greedy : Bool} {inside outside : Nat}
    (here : program[address]? = some (prefer greedy inside outside)) :
    Runs program text steps address place stop notes ↔ ∃ fewer, steps = fewer + 1 ∧
      (Runs program text fewer inside place stop notes ∨
        Runs program text fewer outside place stop notes) := by
  cases greedy with
  | true => exact runs_choose here
  | false => simp only [runs_choose here, or_comm]

/-! ### Where code stands -/

/-- Code stands at an address when its first instruction does and the others stand behind it. -/
theorem standsAt_cons {start : Nat} {first : Instruction} {others : List Instruction} :
    StandsAt program start (first :: others) ↔
      program[start]? = some first ∧ StandsAt program (start + 1) others := by
  constructor
  · intro stands
    refine ⟨stands 0 first rfl, fun index instruction found => ?_⟩
    have behind := stands (index + 1) instruction found
    rwa [Nat.add_assoc, Nat.add_comm 1 index]
  · rintro ⟨here, behind⟩ index instruction found
    cases index with
    | zero =>
      cases found
      exact here
    | succ index =>
      have later := behind index instruction found
      rwa [Nat.add_assoc, Nat.add_comm 1 index] at later

/-- Code in two parts stands at an address when the second part stands behind the first. -/
theorem standsAt_append {start : Nat} {first second : List Instruction} :
    StandsAt program start (first ++ second) ↔
      StandsAt program start first ∧ StandsAt program (start + first.length) second := by
  induction first generalizing start with
  | nil =>
    constructor
    · exact fun stands => ⟨fun index instruction found => by simp at found, stands⟩
    · exact fun ⟨_, stands⟩ => stands
  | cons head others ih =>
    rw [List.cons_append, standsAt_cons, standsAt_cons, ih, and_assoc, List.length_cons,
      Nat.add_assoc start 1, Nat.add_comm 1]

/-- Code between two instructions stands at an address when the three stand one behind the other. -/
theorem standsAt_enclosed {start : Nat} {first last : Instruction} {inner : List Instruction} :
    StandsAt program start (first :: (inner ++ [last])) ↔ program[start]? = some first ∧
      StandsAt program (start + 1) inner ∧ program[start + 1 + inner.length]? = some last := by
  rw [standsAt_cons, standsAt_append, standsAt_cons]
  have nothing (address : Nat) : StandsAt program address [] :=
    fun index instruction found => nomatch (List.getElem?_nil ▸ found)
  simp only [nothing, and_true]

/-- Behind code between two instructions, one stands on each side of it. -/
theorem behind_enclosed (start : Nat) (first last : Instruction) (inner : List Instruction) :
    start + (first :: (inner ++ [last])).length = start + 1 + inner.length + 1 := by
  rw [List.length_cons, List.length_append, List.length_singleton]
  omega

/-! ### Code and spans -/

/-- Code makes the rounds of a relation: what runs through it is what the relation spans. -/
structure Makes (program : Array Instruction) (text : List Char) (code : Nat → List Instruction)
    (round : Nat → Nat → Notes → Prop) : Prop where
  /-- Behind a span, a run goes on from the end of the code. -/
  enter : ∀ {start place middle noted steps stop notes}, StandsAt program start (code start) →
    round place middle noted → Runs program text steps (start + (code start).length) middle stop notes →
    ∃ more, Runs program text more start place stop (notes ++ noted)
  /-- A run from the start of the code on comes to the end of it behind a span. -/
  leave : ∀ {start place steps stop notes}, StandsAt program start (code start) →
    Runs program text steps start place stop notes →
    ∃ middle noted fewer later, fewer ≤ steps ∧ round place middle noted ∧
      Runs program text fewer (start + (code start).length) middle stop later ∧ notes = later ++ noted

variable {code : Nat → List Instruction} {round : Nat → Nat → Notes → Prop}

/-- Code makes the rounds of every relation that spans the same. -/
theorem Makes.congr {other : Nat → Nat → Notes → Prop} (makes : Makes program text code round)
    (same : ∀ start stop notes, other start stop notes ↔ round start stop notes) :
    Makes program text code other := by
  have equal : other = round := by
    funext start stop notes
    exact propext (same start stop notes)
  exact equal ▸ makes

/-- No code makes no step. -/
theorem makes_nil :
    Makes program text (fun _ => []) fun start stop notes => stop = start ∧ notes = [] where
  enter := by
    rintro start place middle noted steps stop notes - ⟨rfl, rfl⟩ rest
    exact ⟨steps, by simpa using rest⟩
  leave := by
    intro start place steps stop notes _ runs
    exact ⟨place, [], steps, notes, Nat.le_refl steps, ⟨rfl, rfl⟩, runs, (List.append_nil notes).symm⟩

/-- Code behind other code makes the rounds of both, one behind the other. -/
theorem Makes.append {next : Nat → List Instruction} {after : Nat → Nat → Notes → Prop}
    (makes : Makes program text code round) (goes : Makes program text next after) :
    Makes program text (fun start => code start ++ next (start + (code start).length))
      fun start stop notes => ∃ middle earlier later, round start middle earlier ∧
        after middle stop later ∧ notes = later ++ earlier where
  enter := by
    rintro start place middle noted steps stop notes stands ⟨between, earlier, later, first, second, rfl⟩ rest
    obtain ⟨front, back⟩ := standsAt_append.mp stands
    rw [List.length_append, ← Nat.add_assoc] at rest
    obtain ⟨more, behind⟩ := goes.enter back second rest
    obtain ⟨steps, whole⟩ := makes.enter front first behind
    exact ⟨steps, by rwa [List.append_assoc] at whole⟩
  leave := by
    intro start place steps stop notes stands runs
    obtain ⟨front, back⟩ := standsAt_append.mp stands
    obtain ⟨between, earlier, fewer, rest, less, first, behind, rfl⟩ := makes.leave front runs
    obtain ⟨middle, later, least, last, lesser, second, ends, rfl⟩ := goes.leave back behind
    refine ⟨middle, later ++ earlier, least, last, Nat.le_trans lesser less,
      ⟨between, earlier, later, first, second, rfl⟩, ?_, List.append_assoc _ _ _⟩
    rwa [List.length_append, ← Nat.add_assoc]

/-- Copies of code make as many rounds. -/
theorem Makes.copies (makes : Makes program text code round) (count : Nat) :
    Makes program text (copies code count) (Rounds round count) := by
  induction count with
  | zero =>
    refine makes_nil.congr fun start stop notes => ⟨fun rounds => ?_, ?_⟩
    · cases rounds
      exact ⟨rfl, rfl⟩
    · rintro ⟨rfl, rfl⟩
      exact .none stop
  | succ count ih =>
    refine (makes.append ih).congr fun start stop notes => ⟨fun rounds => ?_, ?_⟩
    · cases rounds with
      | next first others => exact ⟨_, _, _, first, others, rfl⟩
    · rintro ⟨middle, earlier, later, first, others, rfl⟩
      exact .next first others

/-- Code with a way past it makes one round or none. -/
theorem Makes.option (makes : Makes program text code round) (greedy : Bool) :
    Makes program text (fun start =>
        prefer greedy (start + 1) (start + 1 + (code (start + 1)).length) :: code (start + 1))
      fun start stop notes => stop = start ∧ notes = [] ∨ round start stop notes where
  enter := by
    intro start place middle noted steps stop notes stands step rest
    obtain ⟨here, inner⟩ := standsAt_cons.mp stands
    rw [List.length_cons, Nat.add_comm _ 1, ← Nat.add_assoc] at rest
    rcases step with ⟨rfl, rfl⟩ | step
    · exact ⟨steps + 1, (runs_prefer here).mpr ⟨steps, rfl, .inr (by rwa [List.append_nil])⟩⟩
    · obtain ⟨more, inside⟩ := makes.enter inner step rest
      exact ⟨more + 1, (runs_prefer here).mpr ⟨more, rfl, .inl inside⟩⟩
  leave := by
    intro start place steps stop notes stands runs
    obtain ⟨here, inner⟩ := standsAt_cons.mp stands
    rw [List.length_cons, Nat.add_comm _ 1, ← Nat.add_assoc]
    obtain ⟨fewer, rfl, inside | outside⟩ := (runs_prefer here).mp runs
    · obtain ⟨middle, noted, least, later, less, step, ends, rfl⟩ := makes.leave inner inside
      exact ⟨middle, noted, least, later, Nat.le_succ_of_le less, .inr step, ends, rfl⟩
    · exact ⟨place, [], fewer, notes, Nat.le_succ fewer, .inl ⟨rfl, rfl⟩, outside,
        (List.append_nil notes).symm⟩

/-- Code with a choice behind it that leads back makes one round or more. -/
theorem Makes.oneOrMore (makes : Makes program text code round) (greedy : Bool) :
    Makes program text (oneOrMore code greedy)
      fun start stop notes => ∃ count, Rounds round (count + 1) start stop notes where
  enter := by
    rintro start place middle noted steps stop notes stands ⟨count, rounds⟩ rest
    obtain ⟨front, back⟩ := standsAt_append.mp stands
    obtain ⟨here, -⟩ := standsAt_cons.mp back
    rw [Pattern.oneOrMore, List.length_append, List.length_singleton, ← Nat.add_assoc] at rest
    -- The last round leaves the loop at the choice; every earlier one goes back to the start.
    induction count generalizing place noted with
    | zero =>
      cases rounds with
      | next first others =>
        cases others
        obtain ⟨more, whole⟩ := makes.enter front first
          ((runs_prefer here).mpr ⟨steps, rfl, .inr rest⟩)
        exact ⟨more, by rwa [List.nil_append]⟩
    | succ count ih =>
      cases rounds with
      | next first others =>
        obtain ⟨more, behind⟩ := ih others
        obtain ⟨whole, runs⟩ := makes.enter front first
          ((runs_prefer here).mpr ⟨more, rfl, .inl behind⟩)
        exact ⟨whole, by rwa [List.append_assoc] at runs⟩
  leave := by
    intro start place steps stop notes stands runs
    obtain ⟨front, back⟩ := standsAt_append.mp stands
    obtain ⟨here, -⟩ := standsAt_cons.mp back
    rw [Pattern.oneOrMore, List.length_append, List.length_singleton, ← Nat.add_assoc]
    -- Each time the choice is passed, fewer steps are left.
    induction steps using Nat.strongRecOn generalizing place notes with
    | ind steps ih =>
      obtain ⟨between, earlier, fewer, rest, less, first, behind, rfl⟩ := makes.leave front runs
      obtain ⟨least, rfl, again | outside⟩ := (runs_prefer here).mp behind
      · obtain ⟨middle, noted, last, later, lesser, ⟨count, rounds⟩, ends, rfl⟩ :=
          ih least (by omega) again
        exact ⟨middle, noted ++ earlier, last, later, by omega, ⟨count + 1, .next first rounds⟩, ends,
          List.append_assoc _ _ _⟩
      · exact ⟨between, earlier, least, rest, by omega, ⟨0, .one first⟩, outside, rfl⟩

/-- Code that may be left before every further round makes at most so many. -/
theorem Makes.options (makes : Makes program text code round) (greedy : Bool) (count : Nat) :
    Makes program text (options code greedy count)
      fun start stop notes => ∃ made, made ≤ count ∧ Rounds round made start stop notes := by
  induction count with
  | zero =>
    refine makes_nil.congr fun start stop notes => ⟨?_, ?_⟩
    · rintro ⟨made, few, rounds⟩
      obtain rfl := Nat.le_zero.mp few
      cases rounds
      exact ⟨rfl, rfl⟩
    · rintro ⟨rfl, rfl⟩
      exact ⟨0, Nat.le_refl 0, .none stop⟩
  | succ count ih =>
    have written : Pattern.options code greedy (count + 1) = fun start =>
        let both := code (start + 1) ++
          Pattern.options code greedy count (start + 1 + (code (start + 1)).length)
        prefer greedy (start + 1) (start + 1 + both.length) :: both := by
      funext start
      simp only [Pattern.options, List.length_append, Nat.add_assoc]
    -- Either no round is made, or a first one, and behind it at most as many as are left.
    rw [written]
    refine ((makes.append ih).option greedy).congr fun start stop notes => ⟨?_, ?_⟩
    · rintro ⟨made, few, rounds⟩
      cases rounds with
      | none => exact .inl ⟨rfl, rfl⟩
      | next first others => exact .inr ⟨_, _, _, first, ⟨_, by omega, others⟩, rfl⟩
    · rintro (⟨rfl, rfl⟩ | ⟨middle, earlier, later, first, ⟨made, few, others⟩, rfl⟩)
      · exact ⟨0, Nat.zero_le _, .none stop⟩
      · exact ⟨made + 1, by omega, .next first others⟩

/-- Code in a loop makes any number of rounds. -/
theorem Makes.loop (makes : Makes program text code round) (greedy : Bool) :
    Makes program text (fun start =>
        prefer greedy (start + 1) (start + 1 + (code (start + 1)).length + 1) ::
          (code (start + 1) ++ [.jump start]))
      fun start stop notes => ∃ count, Rounds round count start stop notes where
  enter := by
    rintro start place middle noted steps stop notes stands ⟨count, rounds⟩ rest
    obtain ⟨here, front, jumps⟩ := standsAt_enclosed.mp stands
    rw [behind_enclosed] at rest
    -- Every round comes back to the choice at the start, which is left behind the last.
    induction count generalizing place noted with
    | zero =>
      cases rounds
      exact ⟨steps + 1, (runs_prefer here).mpr ⟨steps, rfl, .inr (by rwa [List.append_nil])⟩⟩
    | succ count ih =>
      cases rounds with
      | next first others =>
        obtain ⟨more, behind⟩ := ih others
        obtain ⟨inside, runs⟩ := makes.enter front first ((runs_jump jumps).mpr ⟨more, rfl, behind⟩)
        exact ⟨inside + 1, (runs_prefer here).mpr ⟨inside, rfl, .inl (by rwa [List.append_assoc] at runs)⟩⟩
  leave := by
    intro start place steps stop notes stands runs
    obtain ⟨here, front, jumps⟩ := standsAt_enclosed.mp stands
    rw [behind_enclosed]
    -- A run that comes back to the choice has fewer steps left.
    induction steps using Nat.strongRecOn generalizing place notes with
    | ind steps ih =>
      obtain ⟨fewer, rfl, inside | outside⟩ := (runs_prefer here).mp runs
      · obtain ⟨between, earlier, less, rest, small, first, behind, rfl⟩ := makes.leave front inside
        obtain ⟨least, rfl, again⟩ := (runs_jump jumps).mp behind
        obtain ⟨middle, noted, last, later, lesser, ⟨count, rounds⟩, ends, rfl⟩ :=
          ih least (by omega) again
        exact ⟨middle, noted ++ earlier, last, later, by omega, ⟨count + 1, .next first rounds⟩, ends,
          List.append_assoc _ _ _⟩
      · exact ⟨place, [], fewer, notes, Nat.le_succ fewer, ⟨0, .none place⟩, outside,
          (List.append_nil notes).symm⟩

/-- Code that is run any number of times makes any number of rounds, whichever form it has. -/
theorem Makes.anyNumber (makes : Makes program text code round) (greedy mayBeEmpty : Bool) :
    Makes program text (anyNumber code greedy mayBeEmpty)
      fun start stop notes => ∃ count, Rounds round count start stop notes := by
  cases mayBeEmpty with
  | false =>
    have written : Pattern.anyNumber code greedy false = fun start =>
        prefer greedy (start + 1) (start + 1 + (code (start + 1)).length + 1) ::
          (code (start + 1) ++ [.jump start]) := by
      funext start
      rw [Nat.add_right_comm start 1]
      rfl
    exact written ▸ makes.loop greedy
  | true =>
    refine ((makes.oneOrMore greedy).option greedy).congr fun start stop notes => ⟨?_, ?_⟩
    · rintro ⟨count, rounds⟩
      cases rounds with
      | none => exact .inl ⟨rfl, rfl⟩
      | next first others => exact .inr ⟨_, .next first others⟩
    · rintro (⟨rfl, rfl⟩ | ⟨count, rounds⟩)
      · exact ⟨0, .none stop⟩
      · exact ⟨count + 1, rounds⟩

/-- Two codes behind a choice make the rounds of either. -/
theorem Makes.either {other : Nat → List Instruction} {instead : Nat → Nat → Notes → Prop}
    (makes : Makes program text code round) (makesOther : Makes program text other instead) :
    Makes program text (fun start =>
        let left := code (start + 1)
        let right := other (start + left.length + 2)
        .choose (start + 1) (start + left.length + 2) ::
          (left ++ .jump (start + left.length + 2 + right.length) :: right))
      fun start stop notes => round start stop notes ∨ instead start stop notes := by
  -- The second code stands behind the jump that passes over it.
  have parted {start : Nat} {right : List Instruction}
      (stands : StandsAt program start (.choose (start + 1) (start + (code (start + 1)).length + 2) ::
        (code (start + 1) ++ .jump (start + (code (start + 1)).length + 2 + right.length) :: right))) :
      program[start]? = some (.choose (start + 1) (start + (code (start + 1)).length + 2)) ∧
        StandsAt program (start + 1) (code (start + 1)) ∧
        program[start + 1 + (code (start + 1)).length]? =
          some (.jump (start + (code (start + 1)).length + 2 + right.length)) ∧
        StandsAt program (start + (code (start + 1)).length + 2) right := by
    obtain ⟨here, inner⟩ := standsAt_cons.mp stands
    obtain ⟨left, back⟩ := standsAt_append.mp inner
    obtain ⟨jumps, behind⟩ := standsAt_cons.mp back
    have place : start + 1 + (code (start + 1)).length + 1 = start + (code (start + 1)).length + 2 := by
      omega
    exact ⟨here, left, jumps, place ▸ behind⟩
  have ends (start : Nat) (left right : List Instruction) (first second : Instruction) :
      start + (first :: (left ++ second :: right)).length = start + left.length + 2 + right.length := by
    simp only [List.length_cons, List.length_append]
    omega
  constructor
  · intro start place middle noted steps stop notes stands step rest
    obtain ⟨here, left, jumps, right⟩ := parted stands
    simp only [ends] at rest
    rcases step with first | second
    · obtain ⟨more, inside⟩ := makes.enter left first ((runs_jump jumps).mpr ⟨steps, rfl, rest⟩)
      exact ⟨more + 1, (runs_choose here).mpr ⟨more, rfl, .inl inside⟩⟩
    · obtain ⟨more, inside⟩ := makesOther.enter right second rest
      exact ⟨more + 1, (runs_choose here).mpr ⟨more, rfl, .inr inside⟩⟩
  · intro start place steps stop notes stands runs
    obtain ⟨here, left, jumps, right⟩ := parted stands
    simp only [ends]
    obtain ⟨fewer, rfl, inside | inside⟩ := (runs_choose here).mp runs
    · obtain ⟨middle, noted, less, later, small, first, behind, rfl⟩ := makes.leave left inside
      obtain ⟨least, rfl, rest⟩ := (runs_jump jumps).mp behind
      exact ⟨middle, noted, least, later, by omega, .inl first, rest, rfl⟩
    · obtain ⟨middle, noted, less, later, small, second, rest, rfl⟩ := makesOther.leave right inside
      exact ⟨middle, noted, less, later, by omega, .inr second, rest, rfl⟩

/-- Code between two notes makes the rounds of the code, with the places where they start and end. -/
theorem Makes.group (makes : Makes program text code round) (opening closing : Nat) :
    Makes program text (fun start => .note opening :: (code (start + 1) ++ [.note closing]))
      fun start stop notes => ∃ within, round start stop within ∧
        notes = (closing, stop) :: (within ++ [(opening, start)]) where
  enter := by
    rintro start place middle noted steps stop notes stands ⟨within, step, rfl⟩ rest
    obtain ⟨opens, front, closes⟩ := standsAt_enclosed.mp stands
    rw [behind_enclosed] at rest
    obtain ⟨more, inside⟩ := makes.enter front step ((runs_note closes).mpr ⟨steps, notes, rfl, rest, rfl⟩)
    exact ⟨more + 1, (runs_note opens).mpr ⟨more, _, rfl, inside, by simp⟩⟩
  leave := by
    intro start place steps stop notes stands runs
    obtain ⟨opens, front, closes⟩ := standsAt_enclosed.mp stands
    rw [behind_enclosed]
    obtain ⟨fewer, behindOpening, rfl, inside, rfl⟩ := (runs_note opens).mp runs
    obtain ⟨middle, within, less, last, small, step, ends, rfl⟩ := makes.leave front inside
    obtain ⟨least, later, rfl, rest, rfl⟩ := (runs_note closes).mp ends
    exact ⟨middle, _, least, later, by omega, ⟨within, step, rfl⟩, rest, by simp⟩

/-- The code of a pattern makes exactly the spans of the pattern. -/
theorem makes_code (program : Array Instruction) (text : List Char) (pattern : Pattern) :
    Makes program text pattern.code (pattern.Spans text) := by
  induction pattern with
  | nothing => exact makes_nil
  | one set =>
    constructor
    · rintro start place middle noted steps stop notes stands ⟨⟨c, found, among⟩, rfl, rfl⟩ rest
      have here := (standsAt_cons.mp stands).1
      exact ⟨steps + 1, (runs_read here).mpr ⟨steps, c, rfl, found, among, by rwa [List.append_nil]⟩⟩
    · intro start place steps stop notes stands runs
      obtain ⟨fewer, c, rfl, found, among, rest⟩ := (runs_read (standsAt_cons.mp stands).1).mp runs
      exact ⟨place + 1, [], fewer, notes, Nat.le_succ fewer, ⟨⟨c, found, among⟩, rfl, rfl⟩, rest,
        (List.append_nil notes).symm⟩
  | look condition =>
    constructor
    · rintro start place middle noted steps stop notes stands ⟨holds, rfl, rfl⟩ rest
      have here := (standsAt_cons.mp stands).1
      exact ⟨steps + 1, (runs_test here).mpr ⟨steps, rfl, holds, by rwa [List.append_nil]⟩⟩
    · intro start place steps stop notes stands runs
      obtain ⟨fewer, rfl, holds, rest⟩ := (runs_test (standsAt_cons.mp stands).1).mp runs
      exact ⟨place, [], fewer, notes, Nat.le_succ fewer, ⟨holds, rfl, rfl⟩, rest,
        (List.append_nil notes).symm⟩
  | sequence first second ihFirst ihSecond => exact ihFirst.append ihSecond
  | either first second ihFirst ihSecond => exact ihFirst.either ihSecond
  | group index inner ih => exact ih.group (2 * index) (2 * index + 1)
  | repeated low high greedy inner ih =>
    cases high with
    | some most =>
      -- The rounds that must be made come first, and those that may be made behind them.
      refine ((ih.copies low).append (ih.options greedy (most - low))).congr fun start stop notes => ⟨?_, ?_⟩
      · rintro ⟨count, enough, few, rounds⟩
        have bound := few most rfl
        obtain ⟨more, rfl⟩ := Nat.exists_eq_add_of_le enough
        obtain ⟨middle, earlier, later, first, others, rfl⟩ := rounds.parted
        exact ⟨middle, earlier, later, first, ⟨more, by omega, others⟩, rfl⟩
      · rintro ⟨middle, earlier, later, first, ⟨more, few, others⟩, rfl⟩
        refine ⟨low + more, Nat.le_add_right low more, fun bound same => ?_, first.append others⟩
        cases same
        omega
    | none =>
      cases low with
      | zero =>
        refine (ih.anyNumber greedy inner.mayBeEmpty).congr fun start stop notes => ⟨?_, ?_⟩
        · rintro ⟨count, -, -, rounds⟩
          exact ⟨count, rounds⟩
        · rintro ⟨count, rounds⟩
          exact ⟨count, Nat.zero_le count, (fun _ same => nomatch same), rounds⟩
      | succ low =>
        -- The last of the rounds that must be made is the one that may be made again.
        refine ((ih.copies low).append (ih.oneOrMore greedy)).congr fun start stop notes => ⟨?_, ?_⟩
        · rintro ⟨count, enough, -, rounds⟩
          obtain ⟨more, rfl⟩ := Nat.exists_eq_add_of_le enough
          rw [Nat.add_assoc, Nat.add_comm 1] at rounds
          obtain ⟨middle, earlier, later, first, others, rfl⟩ := rounds.parted
          exact ⟨middle, earlier, later, first, ⟨more, others⟩, rfl⟩
        · rintro ⟨middle, earlier, later, first, ⟨more, others⟩, rfl⟩
          exact ⟨low + (more + 1), by omega, (fun _ same => nomatch same), first.append others⟩

/-- A program runs from its start through exactly the matches of its pattern. -/
theorem runs_program {pattern : Pattern} {start stop : Nat} {notes : Notes} :
    (∃ steps, Runs pattern.program text steps 0 start stop notes) ↔ pattern.Spans text start stop notes := by
  have whole : StandsAt pattern.program 0 (pattern.code 0 ++ [.done]) := fun index instruction found => by
    rw [Nat.zero_add, Pattern.program, List.getElem?_toArray]
    exact found
  -- Behind the code of the pattern stands the instruction that ends the match.
  obtain ⟨front, back⟩ := standsAt_append.mp whole
  have ends := (standsAt_cons.mp back).1
  have makes := makes_code pattern.program text pattern
  constructor
  · rintro ⟨steps, runs⟩
    obtain ⟨middle, noted, fewer, later, -, spans, rest, rfl⟩ := makes.leave front runs
    obtain ⟨-, rfl, rfl⟩ := (runs_done ends).mp rest
    rwa [List.nil_append]
  · intro spans
    obtain ⟨more, runs⟩ := makes.enter front spans (.done ends)
    exact ⟨more, runs⟩

end

end Placard.Pattern
