import Placard.Pattern.Program

/-! The addresses of programs: a program of a pattern goes on inside itself. -/

namespace Placard.Pattern

/-- The addresses at which a program may go on behind an instruction. -/
def Instruction.nexts (address : Nat) : Instruction → List Nat
  | .read _ => [address + 1]
  | .test _ => [address + 1]
  | .note _ => [address + 1]
  | .choose first second => [first, second]
  | .jump target => [target]
  | .done => []

/-- Code from an address on goes on at no address beyond a last one. -/
def Bounded (start last : Nat) (code : List Instruction) : Prop :=
  ∀ (index : Nat) (instruction : Instruction), code[index]? = some instruction →
    ∀ next ∈ instruction.nexts (start + index), next ≤ last

/-- Code is bounded when its first instruction and the others are. -/
theorem bounded_cons {start last : Nat} {first : Instruction} {others : List Instruction} :
    Bounded start last (first :: others) ↔
      (∀ next ∈ first.nexts start, next ≤ last) ∧ Bounded (start + 1) last others := by
  constructor
  · intro bounded
    refine ⟨bounded 0 first rfl, fun index instruction found => ?_⟩
    have behind := bounded (index + 1) instruction found
    rwa [Nat.add_assoc, Nat.add_comm 1 index]
  · rintro ⟨here, behind⟩ index instruction found
    cases index with
    | zero =>
      cases found
      exact here
    | succ index =>
      have later := behind index instruction found
      rwa [Nat.add_assoc, Nat.add_comm 1 index] at later

/-- No code is bounded. -/
theorem bounded_nil (start last : Nat) : Bounded start last [] := by
  simp [Bounded]

/-- Code in two parts is bounded when both parts are. -/
theorem bounded_append {start last : Nat} {first second : List Instruction} :
    Bounded start last (first ++ second) ↔
      Bounded start last first ∧ Bounded (start + first.length) last second := by
  induction first generalizing start with
  | nil => simp [bounded_nil]
  | cons head others ih =>
    rw [List.cons_append, bounded_cons, bounded_cons, ih, and_assoc, List.length_cons,
      Nat.add_assoc start 1, Nat.add_comm 1]

/-- Code is bounded by every later address. -/
theorem Bounded.mono {start last later : Nat} {code : List Instruction}
    (bounded : Bounded start last code) (beyond : last ≤ later) : Bounded start later code :=
  fun index instruction found next among => Nat.le_trans (bounded index instruction found next among) beyond

/-- Code goes on inside itself or at its end, wherever it stands. -/
def Inward (code : Nat → List Instruction) : Prop :=
  ∀ start, Bounded start (start + (code start).length) (code start)

section

variable {code : Nat → List Instruction}

/-- Inward code is bounded by any address behind it. -/
theorem Inward.bounded (inward : Inward code) {start last : Nat}
    (beyond : start + (code start).length ≤ last) : Bounded start last (code start) :=
  (inward start).mono beyond

/-- Either way of a choice is bounded when both are. -/
theorem bounded_prefer {greedy : Bool} {inside outside last address : Nat} (within : inside ≤ last)
    (without : outside ≤ last) : ∀ next ∈ (prefer greedy inside outside).nexts address, next ≤ last := by
  cases greedy <;> simp [prefer, Instruction.nexts, within, without]

/-- Copies of inward code are inward. -/
theorem Inward.copies (inward : Inward code) (count : Nat) : Inward (copies code count) := by
  induction count with
  | zero => exact fun start => bounded_nil _ _
  | succ count ih =>
    intro start
    rw [Pattern.copies, bounded_append, List.length_append]
    exact ⟨inward.bounded (by omega), ih.bounded (by omega)⟩

/-- Inward code with ways past it is inward. -/
theorem Inward.options (inward : Inward code) (greedy : Bool) (count : Nat) :
    Inward (options code greedy count) := by
  induction count with
  | zero => exact fun start => bounded_nil _ _
  | succ count ih =>
    intro start
    simp only [Pattern.options, bounded_cons, bounded_append, List.length_cons, List.length_append]
    exact ⟨bounded_prefer (by omega) (by omega), inward.bounded (by omega), ih.bounded (by omega)⟩

/-- Inward code with a way back to its start is inward. -/
theorem Inward.oneOrMore (inward : Inward code) (greedy : Bool) : Inward (oneOrMore code greedy) := by
  intro start
  simp only [Pattern.oneOrMore, bounded_append, bounded_cons, List.length_append, List.length_singleton]
  exact ⟨inward.bounded (by omega), bounded_prefer (by omega) (by omega), bounded_nil _ _⟩

/-- Inward code in a loop is inward. -/
theorem Inward.anyNumber (inward : Inward code) (greedy mayBeEmpty : Bool) :
    Inward (anyNumber code greedy mayBeEmpty) := by
  intro start
  cases mayBeEmpty with
  | true =>
    simp only [Pattern.anyNumber, if_true, bounded_cons, List.length_cons]
    exact ⟨bounded_prefer (by omega) (by omega), (inward.oneOrMore greedy).bounded (by omega)⟩
  | false =>
    simp only [Pattern.anyNumber, Bool.false_eq_true, if_false, bounded_cons, bounded_append,
      List.length_cons, List.length_append, List.length_nil]
    exact ⟨bounded_prefer (by omega) (by omega), inward.bounded (by omega),
      by simp [Instruction.nexts], bounded_nil _ _⟩

end

/-- The code of a pattern is inward. -/
theorem inward_code (pattern : Pattern) : Inward pattern.code := by
  induction pattern with
  | nothing => exact fun start => bounded_nil _ _
  | one set =>
    intro start
    simp [code, bounded_cons, bounded_nil, Instruction.nexts]
  | look condition =>
    intro start
    simp [code, bounded_cons, bounded_nil, Instruction.nexts]
  | sequence first second ihFirst ihSecond =>
    intro start
    simp only [code, bounded_append, List.length_append]
    exact ⟨ihFirst.bounded (by omega), ihSecond.bounded (by omega)⟩
  | either first second ihFirst ihSecond =>
    intro start
    simp only [code, bounded_cons, bounded_append, List.length_cons, List.length_append]
    -- The second code stands behind the jump that ends the first.
    have place : start + 1 + (first.code (start + 1)).length + 1 =
        start + (first.code (start + 1)).length + 2 := by omega
    refine ⟨?_, ihFirst.bounded (by omega), ?_, ?_⟩
    · simp only [Instruction.nexts, List.forall_mem_cons, List.not_mem_nil, false_implies, implies_true,
        and_true]
      omega
    · simp only [Instruction.nexts, List.mem_singleton, forall_eq]
      omega
    · rw [place]
      exact ihSecond.bounded (by omega)
  | repeated low high greedy inner ih =>
    cases high with
    | some most =>
      intro start
      simp only [code, bounded_append, List.length_append]
      exact ⟨(ih.copies low).bounded (by omega), (ih.options greedy (most - low)).bounded (by omega)⟩
    | none =>
      cases low with
      | zero => exact ih.anyNumber greedy inner.mayBeEmpty
      | succ low =>
        intro start
        simp only [code, bounded_append, List.length_append]
        exact ⟨(ih.copies low).bounded (by omega), (ih.oneOrMore greedy).bounded (by omega)⟩
  | group index inner ih =>
    intro start
    simp only [code, bounded_cons, bounded_append, List.length_cons, List.length_append, List.length_nil]
    refine ⟨?_, ih.bounded (by omega), ?_, bounded_nil _ _⟩
    · simp [Instruction.nexts]
    · simp only [Instruction.nexts, List.mem_singleton, forall_eq]
      omega

/-- A program goes on at its own addresses only. -/
def Closed (program : Array Instruction) : Prop :=
  ∀ (address : Nat) (instruction : Instruction), program[address]? = some instruction →
    ∀ next ∈ instruction.nexts address, next < program.size

/-- The program of a pattern goes on at its own addresses only. -/
theorem closed_program (pattern : Pattern) : Closed pattern.program := by
  intro address instruction found next among
  rw [program, List.getElem?_toArray] at found
  -- Behind the code stands one instruction more, which goes on nowhere.
  have whole : Bounded 0 (pattern.code 0).length (pattern.code 0 ++ [.done]) := by
    rw [bounded_append, bounded_cons]
    refine ⟨?_, by simp [Instruction.nexts], bounded_nil _ _⟩
    exact (inward_code pattern).bounded (by omega)
  rw [program, List.size_toArray, List.length_append, List.length_singleton]
  have within := whole address instruction found next (by rwa [Nat.zero_add])
  omega

end Placard.Pattern
