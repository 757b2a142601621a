import Placard.Proofs.Machine.Run
import Placard.Refresh.Job

/-! A job among those who wait for its outcomes: once it was stopped, it does nothing any more. -/

namespace Placard

namespace Job

/-- What may happen to a job. -/
inductive Move
  | turn
  | wait (span : Duration)
  | look
  | cancel
  | drop
deriving DecidableEq

/-- A job that was asked to end, or that has ended. -/
def Stopped (job : Job) : Prop := job.cancelled = true ∨ job.ended = true

/-- A job that has done nothing since it was another one, whatever else happened. -/
structure Idles (job later : Job) : Prop where
  shared : later.shared = job.shared
  latest : later.latest = job.latest
  due : later.due = job.due

/-- A job that does nothing twice does nothing. -/
theorem Idles.trans {first second third : Job} (before : first.Idles second) (after : second.Idles third) :
    first.Idles third :=
  ⟨after.shared.trans before.shared, after.latest.trans before.latest, after.due.trans before.due⟩

end Job

namespace Refresh

section Moves

variable {m : Type → Type} [Monad m] [Machine m]

/-- Lets something happen to a job. -/
def move (refresh : Refresh m) (job : Job) : Job.Move → m Job
  | .turn => refresh.turn job
  | .wait span => do
    Machine.pause span
    return job
  | .look => return job.look.2
  | .cancel => return job.cancel
  | .drop => return job.drop

/-- Lets one thing after another happen to a job. -/
def moveAll (refresh : Refresh m) (job : Job) (moves : List Job.Move) : m Job :=
  moves.foldlM refresh.move job

/-- The waiting alone that a move brings. -/
def waitFor : Job.Move → m Unit
  | .wait span => Machine.pause span
  | _ => return ()

/-- The waiting alone that moves bring. -/
def waitForAll (moves : List Job.Move) : m Unit := moves.forM waitFor

variable (refresh : Refresh m)

/-- A job ends without waiting, and whatever happens to it only lets time pass: it asks for nothing else. -/
structure Silent (job : Job) : Prop where
  ends : ∃ later : Job, refresh.proceed job = pure later ∧ later.ended
  idles : ∀ moves : List Job.Move, ∃ later : Job,
    (refresh.moveAll job moves = do
      waitForAll moves
      return later) ∧
      job.Idles later ∧ (job.ended ∨ .turn ∈ moves → later.ended)

variable [LawfulMonad m]

/-- Whatever happens to a stopped job, it stays stopped and does nothing; its next turn ends it. -/
theorem move_stopped {job : Job} (stopped : job.Stopped) (move : Job.Move) : ∃ later : Job,
    (refresh.move job move = do
      waitFor move
      return later) ∧
      later.Stopped ∧ job.Idles later ∧ (job.ended ∨ move = .turn → later.ended) := by
  cases move with
  | turn =>
    by_cases ended : job.ended
    · exact ⟨job, by simp [Refresh.move, turn, ended, waitFor], stopped, ⟨rfl, rfl, rfl⟩, fun _ => ended⟩
    · have cancelled : job.cancelled = true := stopped.resolve_right ended
      exact ⟨{ job with ended := true }, by simp [Refresh.move, turn, ended, cancelled, waitFor],
        .inr rfl, ⟨rfl, rfl, rfl⟩, fun _ => rfl⟩
  | wait span => exact ⟨job, rfl, stopped, ⟨rfl, rfl, rfl⟩, by simp⟩
  | look =>
    exact ⟨job.look.2, by simp [Refresh.move, waitFor], stopped, ⟨rfl, rfl, rfl⟩, by simp [Job.look]⟩
  | cancel =>
    exact ⟨job.cancel, by simp [Refresh.move, waitFor], .inl rfl, ⟨rfl, rfl, rfl⟩, by simp [Job.cancel]⟩
  | drop =>
    exact ⟨job.drop, by simp [Refresh.move, waitFor], stopped, ⟨rfl, rfl, rfl⟩, by simp [Job.drop]⟩

/-- Once a job was stopped, time may pass for ever and nothing else happens; any turn ends it. -/
theorem moveAll_stopped (moves : List Job.Move) : ∀ {job : Job}, job.Stopped → ∃ later : Job,
    (refresh.moveAll job moves = do
      waitForAll moves
      return later) ∧
      job.Idles later ∧ (job.ended ∨ .turn ∈ moves → later.ended) := by
  -- A stopped job stays stopped, so what holds of one move holds of those behind it.
  induction moves with
  | nil => exact fun {job} _ => ⟨job, by simp [moveAll, waitForAll], ⟨rfl, rfl, rfl⟩, by simp⟩
  | cons move moves ih =>
    intro job stopped
    obtain ⟨next, moved, still, idle, ends⟩ := refresh.move_stopped stopped move
    obtain ⟨later, ran, idles, ended⟩ := ih still
    refine ⟨later, ?_, idle.trans idles, fun reason => ended ?_⟩
    · unfold moveAll at ran
      simp [moveAll, waitForAll, moved, ran]
    · rcases reason with before | member
      · exact .inl (ends (.inl before))
      · rcases List.mem_cons.mp member with here | behind
        · exact .inl (ends (.inr here.symm))
        · exact .inr behind

/-- A job that was stopped does nothing any more. -/
theorem silent_of_stopped {job : Job} (stopped : job.Stopped) : refresh.Silent job := by
  refine ⟨?_, fun moves => refresh.moveAll_stopped moves stopped⟩
  by_cases ended : job.ended
  · exact ⟨job, by simp [proceed, Job.rest, turn, ended], ended⟩
  · have cancelled : job.cancelled = true := stopped.resolve_right ended
    exact ⟨{ job with ended := true }, by simp [proceed, Job.rest, turn, ended, cancelled], rfl⟩

end Moves

variable {σ : Type} [Machine (StateM σ)] (refresh : Refresh (StateM σ))

/-- A job that gets no turn has nothing new to show. -/
theorem moveAll_waiting (moves : List Job.Move) (quiet : .turn ∉ moves) : ∀ (job : Job) (state : σ),
    ((refresh.moveAll job moves).run state).1.latest = job.latest := by
  induction moves with
  | nil => exact fun job state => rfl
  | cons move moves ih =>
    intro job state
    have behind := ih fun member => quiet (List.mem_cons_of_mem move member)
    unfold moveAll at behind ⊢
    cases move with
    | turn => exact absurd List.mem_cons_self quiet
    | wait span => simp [Refresh.move, behind]
    | look => simp [Refresh.move, behind, Job.look]
    | cancel => simp [Refresh.move, behind, Job.cancel]
    | drop => simp [Refresh.move, behind, Job.drop]

end Refresh

end Placard
