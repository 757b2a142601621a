import Mathlib.Data.Finset.Card
import Mathlib.Data.Finset.Range
import Placard.Proofs.Pattern.Addresses
import Placard.Proofs.Pattern.Runs

/-! Settling of threads: every address that is reached without reading is settled if it waits there. -/

namespace Placard.Pattern

variable {program : Array Instruction} {spot : Spot}

/-! ### Ways that read nothing -/

/-- At an address a character is read, or the match ends. -/
def waits (program : Array Instruction) (address : Nat) : Bool :=
  match program[address]? with
  | some (.read _) => true
  | some .done => true
  | _ => false

/-- The threads that come next where a thread reads nothing, preferred ones first. -/
def branches (program : Array Instruction) (spot : Spot) (thread : Thread) : List Thread :=
  match program[thread.address]? with
  | some (.test condition) =>
    if condition.holds spot.before spot.after then [⟨thread.address + 1, thread.notes⟩] else []
  | some (.note slot) => [⟨thread.address + 1, (slot, spot.offset) :: thread.notes⟩]
  | some (.choose first second) => [⟨first, thread.notes⟩, ⟨second, thread.notes⟩]
  | some (.jump target) => [⟨target, thread.notes⟩]
  | _ => []

/-- The threads that come next are those to which a step leads. -/
theorem mem_branches {thread next : Thread} :
    next ∈ branches program spot thread ↔ ∃ noted,
      Skips program spot thread.address next.address noted ∧ next.notes = noted ++ thread.notes := by
  obtain ⟨address, notes⟩ := thread
  obtain ⟨target, later⟩ := next
  constructor
  · intro among
    unfold branches at among
    split at among
    · split at among
      · rename_i here holds
        cases List.mem_singleton.mp among
        exact ⟨[], .test here holds, rfl⟩
      · cases among
    · rename_i here
      cases List.mem_singleton.mp among
      exact ⟨_, .note here, rfl⟩
    · rename_i here
      rcases List.mem_pair.mp among with same | same
      · cases same
        exact ⟨[], .first here, rfl⟩
      · cases same
        exact ⟨[], .second here, rfl⟩
    · rename_i here
      cases List.mem_singleton.mp among
      exact ⟨[], .jump here, rfl⟩
    · cases among
  · rintro ⟨noted, step, same⟩
    cases same
    cases step with
    | test here holds => simp [branches, here, holds]
    | note here => simp [branches, here]
    | first here => simp [branches, here]
    | second here => simp [branches, here]
    | jump here => simp [branches, here]

/-- A thread at an address that was passed is dropped. -/
theorem settle_seen {seen : Std.HashSet Nat} {thread : Thread} (passed : thread.address ∈ seen)
    (fresh : Nat) (pending : List Thread) :
    settle program spot seen fresh (thread :: pending) = settle program spot seen fresh pending := by
  rw [settle.eq_def]
  exact if_pos (Std.HashSet.mem_iff_contains.mp passed)

/-- A thread at a new address stays if it waits there, and its branches come before all others. -/
theorem settle_new {seen : Std.HashSet Nat} {thread : Thread} (new : thread.address ∉ seen) (fresh : Nat)
    (pending : List Thread) :
    settle program spot seen (fresh + 1) (thread :: pending) =
      (if waits program thread.address then [thread] else []) ++
        settle program spot (seen.insert thread.address) fresh
          (branches program spot thread ++ pending) := by
  rw [settle, if_neg fun passed => new (Std.HashSet.mem_iff_contains.mpr passed), waits, branches]
  cases program[thread.address]? with
  | none => rfl
  | some instruction =>
    cases instruction with
    | test condition =>
      cases holds : condition.holds spot.before spot.after with
      | true => simp [holds]
      | false => simp [holds]
    | _ => rfl

/-- When no address may be new any more, a thread at a new one ends the settling. -/
theorem settle_spent {seen : Std.HashSet Nat} {thread : Thread} (new : thread.address ∉ seen)
    (pending : List Thread) : settle program spot seen 0 (thread :: pending) = [] := by
  rw [settle, if_neg fun passed => new (Std.HashSet.mem_iff_contains.mpr passed)]

/-- What holds without threads, and passes from what is settled next, holds of every settling. -/
theorem settle_induction (program : Array Instruction) (spot : Spot)
    {motive : Std.HashSet Nat → Nat → List Thread → Prop}
    (nil : ∀ seen fresh, motive seen fresh [])
    (passed : ∀ {seen fresh thread pending}, thread.address ∈ seen → motive seen fresh pending →
      motive seen fresh (thread :: pending))
    (spent : ∀ {seen thread pending}, thread.address ∉ seen → motive seen 0 (thread :: pending))
    (new : ∀ {seen fresh thread pending}, thread.address ∉ seen →
      motive (seen.insert thread.address) fresh (branches program spot thread ++ pending) →
      motive seen (fresh + 1) (thread :: pending))
    (seen : Std.HashSet Nat) (fresh : Nat) (pending : List Thread) : motive seen fresh pending := by
  -- A new address takes one of the fresh ones, and any other thread shortens the list.
  induction fresh generalizing seen pending with
  | zero =>
    induction pending with
    | nil => exact nil seen 0
    | cons thread pending ih =>
      by_cases known : thread.address ∈ seen
      · exact passed known ih
      · exact spent known
  | succ fresh ihFresh =>
    induction pending with
    | nil => exact nil seen (fresh + 1)
    | cons thread pending ih =>
      by_cases known : thread.address ∈ seen
      · exact passed known ih
      · exact new known (ihFresh _ _)

/-- Threads behind others change nothing of what comes of those. -/
theorem settle_append (program : Array Instruction) (spot : Spot) (seen : Std.HashSet Nat) (fresh : Nat)
    (front back : List Thread) :
    ∃ rest, settle program spot seen fresh (front ++ back) =
      settle program spot seen fresh front ++ rest := by
  induction seen, fresh, front using settle_induction program spot with
  | nil seen fresh => exact ⟨_, by rw [List.nil_append, settle, List.nil_append]⟩
  | passed known ih => rwa [List.cons_append, settle_seen known, settle_seen known]
  | spent new => exact ⟨[], by rw [List.cons_append, settle_spent new, settle_spent new, List.append_nil]⟩
  | new new ih =>
    obtain ⟨rest, same⟩ := ih
    refine ⟨rest, ?_⟩
    rw [List.cons_append, settle_new new, settle_new new, ← List.append_assoc _ _ back, same,
      List.append_assoc]

/-- What passes from a thread to those that come next passes to all that are settled. -/
theorem settle_keeps {holds : Thread → Prop}
    (step : ∀ {thread next}, holds thread → next ∈ branches program spot thread → holds next)
    {seen : Std.HashSet Nat} {fresh : Nat} {pending : List Thread}
    (each : ∀ thread ∈ pending, holds thread) :
    ∀ thread ∈ settle program spot seen fresh pending, holds thread := by
  induction seen, fresh, pending using settle_induction program spot with
  | nil seen fresh =>
    rw [settle]
    exact each
  | passed known ih =>
    rw [settle_seen known]
    exact ih (List.forall_mem_cons.mp each).2
  | spent new =>
    rw [settle_spent new]
    exact fun _ among => absurd among List.not_mem_nil
  | new new ih =>
    obtain ⟨first, others⟩ := List.forall_mem_cons.mp each
    rw [settle_new new]
    intro thread among
    rcases List.mem_append.mp among with kept | later
    · split at kept
      · exact List.mem_singleton.mp kept ▸ first
      · cases kept
    · refine ih (fun next member => ?_) thread later
      exact (List.mem_append.mp member).elim (step first) (others next)

/-- The addresses of a program that were not passed are at most so many. -/
def Room (program : Array Instruction) (seen : Std.HashSet Nat) (fresh : Nat) : Prop :=
  ((Finset.range program.size).filter (· ∉ seen)).card ≤ fresh

/-- With no address passed, there is room for all addresses of the program. -/
theorem room_empty (program : Array Instruction) : Room program ∅ program.size := by
  simp [Room]

/-- Where there is no room, no address of the program is new. -/
theorem Room.spent {seen : Std.HashSet Nat} (room : Room program seen 0) {address : Nat}
    (inside : address < program.size) : address ∈ seen := by
  by_contra new
  have none_ := Finset.card_eq_zero.mp (Nat.le_zero.mp room)
  have among : address ∈ (Finset.range program.size).filter (· ∉ seen) := by
    simp [inside, new]
  rw [none_] at among
  exact Finset.notMem_empty address among

/-- A new address of the program takes one place of the room. -/
theorem Room.insert {seen : Std.HashSet Nat} {fresh address : Nat} (room : Room program seen (fresh + 1))
    (inside : address < program.size) (new : address ∉ seen) :
    Room program (seen.insert address) fresh := by
  -- The address itself is new no longer, and no other one becomes new.
  have fewer : (Finset.range program.size).filter (· ∉ seen.insert address) ⊂
      (Finset.range program.size).filter (· ∉ seen) := by
    refine Finset.ssubset_iff_of_subset (fun other among => ?_) |>.mpr ⟨address, ?_, ?_⟩
    · simp only [Finset.mem_filter, Std.HashSet.mem_insert, not_or] at among ⊢
      exact ⟨among.1, among.2.2⟩
    · simp [inside, new]
    · simp
  have less := Finset.card_lt_card fewer
  unfold Room at room ⊢
  omega

/-- A step of a closed program leads to one of its addresses. -/
theorem Closed.skips (closed : Closed program) {address next : Nat} {noted : Notes}
    (step : Skips program spot address next noted) : next < program.size := by
  cases step with
  | test here => exact closed _ _ here _ (List.mem_singleton_self _)
  | note here => exact closed _ _ here _ (List.mem_singleton_self _)
  | first here => exact closed _ _ here _ List.mem_cons_self
  | second here => exact closed _ _ here _ (List.mem_cons_of_mem _ (List.mem_singleton_self _))
  | jump here => exact closed _ _ here _ (List.mem_singleton_self _)

/-- With room for all addresses, every address that can be reached is settled if it waits.

Which addresses are reached is told by a set of them that no step leaves. -/
theorem settle_reaches (spot : Spot) (closed : Closed program) {seen : Std.HashSet Nat} {fresh : Nat}
    {pending : List Thread} (room : Room program seen fresh)
    (inside : ∀ thread ∈ pending, thread.address < program.size) :
    ∃ reached : Nat → Prop, (∀ address ∈ seen, reached address) ∧
      (∀ thread ∈ pending, reached thread.address) ∧
      ∀ address, reached address → address ∉ seen →
        (∀ next noted, Skips program spot address next noted → reached next) ∧
        (waits program address = true →
          ∃ thread ∈ settle program spot seen fresh pending, thread.address = address) := by
  induction seen, fresh, pending using settle_induction program spot with
  | nil seen fresh =>
    exact ⟨(· ∈ seen), fun _ known => known, (fun _ among => absurd among List.not_mem_nil),
      fun _ known new => absurd known new⟩
  | passed known ih =>
    obtain ⟨reached, old, others, each⟩ := ih room (List.forall_mem_cons.mp inside).2
    rw [settle_seen known]
    exact ⟨reached, old, List.forall_mem_cons.mpr ⟨old _ known, others⟩, each⟩
  | spent new => exact absurd (room.spent (List.forall_mem_cons.mp inside).1) new
  | @new seen fresh thread pending new ih =>
    obtain ⟨first, rest⟩ := List.forall_mem_cons.mp inside
    -- What comes next stands at addresses of the program, as the program is closed.
    have within : ∀ next ∈ branches program spot thread ++ pending, next.address < program.size := by
      intro next among
      rcases List.mem_append.mp among with branch | other
      · obtain ⟨noted, step, -⟩ := mem_branches.mp branch
        exact closed.skips step
      · exact rest next other
    obtain ⟨reached, old, next, each⟩ := ih (room.insert first new) within
    have own : reached thread.address := old _ Std.HashSet.mem_insert_self
    refine ⟨reached, fun address known => old address (Std.HashSet.mem_insert.mpr (.inr known)),
      List.forall_mem_cons.mpr ⟨own, fun other among => next other (List.mem_append_right _ among)⟩,
      fun address found unseen => ?_⟩
    rw [settle_new new]
    by_cases here : address = thread.address
    · -- The steps from the new address lead to the branches, which are settled next.
      subst here
      refine ⟨fun target noted step => ?_, fun waiting => ⟨thread, ?_, rfl⟩⟩
      · exact next ⟨target, noted ++ thread.notes⟩
          (List.mem_append_left _ (mem_branches.mpr ⟨noted, step, rfl⟩))
      · simp [waiting]
    · have still : address ∉ seen.insert thread.address := by
        simp [Std.HashSet.mem_insert, unseen, Ne.symm here]
      obtain ⟨steps, stays⟩ := each address found still
      refine ⟨steps, fun waiting => ?_⟩
      obtain ⟨held, among, same⟩ := stays waiting
      exact ⟨held, List.mem_append_right _ among, same⟩

end Placard.Pattern
