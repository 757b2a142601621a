import Placard.Refresh

/-! A refresh that runs by the clock, beside those who wait for its outcomes. -/

namespace Placard

/-- How far a refresh has come, and what those who wait for its outcomes have done. -/
structure Job where
  shared : Shared
  /-- When the next render is due; a job that has not had a turn does not know. -/
  due : Option Duration
  latest : Option Outcome
  /-- The latest outcome has not been looked at. -/
  unseen : Bool
  cancelled : Bool
  dropped : Bool
  ended : Bool
deriving DecidableEq, Repr, Inhabited

namespace Job

/-- A job that has not had a turn. -/
def spawn (shared : Shared) : Job := ⟨shared, none, none, false, false, false, false⟩

/-- Asks a job to end; it notices at its next turn. -/
def cancel (job : Job) : Job := { job with cancelled := true }

/-- Stops waiting for outcomes; a job notices when it has one. -/
def drop (job : Job) : Job := { job with dropped := true }

/-- Puts an outcome in the place of the latest one; where nobody waits for it, the job ends. -/
def publish (job : Job) (outcome : Outcome) : Job :=
  if job.dropped then { job with ended := true }
  else { job with latest := some outcome, unseen := true }

/-- Looks at the latest outcome, if it has not been seen. -/
def look (job : Job) : Option Outcome × Job :=
  (if job.unseen then job.latest else none, { job with unseen := false })

/-- Lets time pass until a job has something to do. -/
def rest {m : Type → Type} [Monad m] [Machine m] (job : Job) : m Unit :=
  if job.ended || job.cancelled then return ()
  else match job.due with
    | none => return ()
    | some due => do
      let now ← Machine.now
      Machine.pause ⟨due.nanoseconds - now.nanoseconds⟩

end Job

namespace Refresh

variable {m : Type → Type} [Monad m] [Machine m]

/-- When the render after one is due: an interval later, counted from a time that was met.

A render that came late moves all later ones; a few milliseconds are not late. -/
def following (refresh : Refresh m) (due now : Duration) : Duration :=
  let slack := 5_000_000
  let base := if due.nanoseconds + slack < now.nanoseconds then now else due
  ⟨base.nanoseconds + refresh.interval.nanoseconds⟩

/-- One turn of a job: it ends if it was cancelled, and renders if a render is due. -/
def turn (refresh : Refresh m) (job : Job) : m Job := do
  if job.ended then return job
  else if job.cancelled then return { job with ended := true }
  else
    let now ← Machine.now
    let due := job.due.getD now
    if now.nanoseconds < due.nanoseconds then return job
    else
      let (outcome, shared) ← refresh.renderOnce job.shared
      return { job with shared := shared, due := some (refresh.following due now) }.publish outcome

/-- Lets a job do what it has to do next, when the time for it has come. -/
def proceed (refresh : Refresh m) (job : Job) : m Job := do
  job.rest
  refresh.turn job

/-- Waits for an outcome that has not been seen; a job that ends has no more of them. -/
def next (refresh : Refresh m) (job : Job) : m (Option Outcome × Job) := do
  if job.unseen then return job.look
  else return (← refresh.proceed job).look

/-- Takes a number of outcomes, or as many as come before the job ends. -/
def take (refresh : Refresh m) : Nat → Job → m (List Outcome × Job)
  | 0, job => return ([], job)
  | more + 1, job => do
    let (outcome, job) ← refresh.next job
    match outcome with
    | none => return ([], job)
    | some outcome =>
      let (others, job) ← refresh.take more job
      return (outcome :: others, job)

/-- Hands each outcome on, until an answer, the last round or the end of the job comes. -/
def rounds {α : Type} (refresh : Refresh m) (hand : Outcome → m (Option α)) :
    Nat → Job → m (Option α × Job)
  | 0, job => return (none, job)
  | more + 1, job => do
    let (outcome, job) ← refresh.next job
    match outcome with
    | none => return (none, job)
    | some outcome =>
      match ← hand outcome with
      | some answer => return (some answer, job)
      | none => refresh.rounds hand more job

end Refresh

end Placard
