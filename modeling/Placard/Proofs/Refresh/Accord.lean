import Placard.Proofs.Machine.Accord
import Placard.Refresh.Job
import Placard.Source.Transport

/-! Machines in accord ask sources alike, fill templates alike, and do so again and again alike. -/

namespace Placard.Accord

variable {m m' : Type → Type} [Monad m] [Monad m'] [Machine m] [Machine m'] {shown shown' : Presentation}
  (accord : Accord m m' shown shown')

/-- Asked for the same source with the same budget, two fetchers are in accord. -/
def Fetches (fetch : Fetch m) (fetch' : Fetch m') : Prop :=
  ∀ source budget, accord.agree Eq (fetch source budget) (fetch' source budget)

/-- Two renderers that ask their sources in accord, and are the same otherwise. -/
structure Renders (renderer : Renderer m) (renderer' : Renderer m') : Prop where
  fetch : accord.Fetches renderer.fetch renderer'.fetch
  budget : renderer'.budget = renderer.budget
  note : renderer'.note = renderer.note

/-- Two refreshes that ask their surroundings in accord, and are the same otherwise. -/
structure Refreshes (refresh : Refresh m) (refresh' : Refresh m') : Prop where
  renderer : accord.Renders refresh.renderer refresh'.renderer
  template : refresh'.template = refresh.template
  interval : refresh'.interval = refresh.interval
  facts : accord.agree Eq refresh.facts refresh'.facts
  consult : accord.agree Eq refresh.consult refresh'.consult

/-! ### Setting up -/

/-- A transport is found to be in order on both machines, or on neither. -/
theorem check (transport : Transport) :
    accord.agree Eq (transport.check (m := m)) (transport.check (m := m')) := by
  obtain ⟨trust, userAgent⟩ := transport
  -- Only an authority of its own has a file to be read.
  cases trust with
  | authority path =>
    refine accord.next (accord.read path) fun found => ?_
    cases found <;> exact accord.next (accord.give _) fun _ => accord.give _
  | system => exact accord.next (accord.give _) fun _ => accord.give _
  | anyone => exact accord.next (accord.give _) fun _ => accord.give _

/-- Fetchers that are in accord are set up on both machines, or on neither. -/
theorem connect {fetch : Fetch m} {fetch' : Fetch m'} (fetches : accord.Fetches fetch fetch')
    (transport : Transport) :
    accord.agree (EndAlike accord.Fetches) (Transport.connect fetch transport)
      (Transport.connect fetch' transport) := by
  refine accord.next (accord.check transport) fun found => accord.pure ?_
  cases found with
  | error error => exact .error error
  | ok _ => exact .ok fetches

/-! ### Filling templates -/

/-- The source of a connection is the same on both machines. -/
theorem source (connection : Connection) :
    accord.agree Eq (connection.source (m := m)) (connection.source (m := m')) :=
  accord.next (accord.next (accord.kind? _) fun _ => accord.give _) fun _ => accord.give _

/-- A connection is looked at alike. -/
theorem inspect {fetch : Fetch m} {fetch' : Fetch m'} (fetches : accord.Fetches fetch fetch')
    (budget : Duration) (connection : Connection) :
    accord.agree Eq (connection.inspect fetch budget) (connection.inspect fetch' budget) := by
  refine accord.next (accord.source connection) fun source => ?_
  refine accord.next (fetches source budget) fun answer => ?_
  cases answer <;> exact accord.give _

variable {renderer : Renderer m} {renderer' : Renderer m'} {refresh : Refresh m} {refresh' : Refresh m'}
  [LawfulMonad m] [LawfulMonad m']

/-- Templates are filled alike. -/
theorem report (renders : accord.Renders renderer renderer') (template : String) (facts : Facts)
    (registry : Registry) :
    accord.agree Eq (renderer.report template facts registry) (renderer'.report template facts registry) := by
  refine accord.next (accord.mapM (fun connection => ?_) _) fun tags => ?_
  · -- One connection is resolved alike, and so are all that are mentioned.
    refine accord.next (accord.next ?_ fun _ => accord.give _) fun _ => accord.give _
    rw [renders.budget]
    exact accord.inspect renders.fetch _ connection
  · rw [renders.note]
    exact accord.give _

/-- The texts of filled templates are the same. -/
theorem render (renders : accord.Renders renderer renderer') (template : String) (facts : Facts)
    (registry : Registry) :
    accord.agree Eq (renderer.render template facts registry) (renderer'.render template facts registry) :=
  accord.next (accord.report renders template facts registry) fun _ => accord.give _

/-- One render of a refresh goes alike. -/
theorem renderOnce (refreshes : accord.Refreshes refresh refresh') (shared : Shared) :
    accord.agree Eq (refresh.renderOnce shared) (refresh'.renderOnce shared) := by
  refine accord.next refreshes.consult fun fresh => ?_
  refine accord.next (accord.next refreshes.facts fun facts => ?_) fun text =>
    accord.next accord.now fun _ => accord.give _
  rw [refreshes.template]
  exact accord.render refreshes.renderer _ facts _

/-! ### Jobs -/

/-- One turn of a job goes alike. -/
theorem turn (refreshes : accord.Refreshes refresh refresh') (job : Job) :
    accord.agree Eq (refresh.turn job) (refresh'.turn job) := by
  -- The refreshes have one interval, hence one schedule.
  have following (due now : Duration) : refresh'.following due now = refresh.following due now := by
    rw [Refresh.following, Refresh.following, refreshes.interval]
  unfold Refresh.turn
  split
  · exact accord.give _
  · split
    · exact accord.give _
    · refine accord.next accord.now fun now => ?_
      dsimp only
      split
      · exact accord.give _
      · refine accord.next (accord.renderOnce refreshes job.shared) fun made => ?_
        rw [following]
        exact accord.give _

omit [LawfulMonad m] [LawfulMonad m'] in
/-- A job rests for the same time. -/
theorem rest (job : Job) : accord.agree Eq (job.rest (m := m)) (job.rest (m := m')) := by
  unfold Job.rest
  split
  · exact accord.give _
  · split
    · exact accord.give _
    · exact accord.next accord.now fun _ => accord.pause _

/-- A job does the same next. -/
theorem proceed (refreshes : accord.Refreshes refresh refresh') (job : Job) :
    accord.agree Eq (refresh.proceed job) (refresh'.proceed job) :=
  accord.next (accord.rest job) fun _ => accord.turn refreshes job

/-- The next outcome of a job is the same. -/
theorem nextOutcome (refreshes : accord.Refreshes refresh refresh') (job : Job) :
    accord.agree Eq (refresh.next job) (refresh'.next job) := by
  unfold Refresh.next
  split
  · exact accord.give _
  · exact accord.next (accord.proceed refreshes job) fun _ => accord.give _

/-- Rounds go alike when the outcomes are handed on alike. -/
theorem rounds (refreshes : accord.Refreshes refresh refresh') {α : Type} {hand : Outcome → m (Option α)}
    {hand' : Outcome → m' (Option α)} (hands : ∀ outcome, accord.agree Eq (hand outcome) (hand' outcome))
    (count : Nat) (job : Job) :
    accord.agree Eq (refresh.rounds hand count job) (refresh'.rounds hand' count job) := by
  -- Each round begins with the job that the round before has left.
  induction count generalizing job with
  | zero => exact accord.give _
  | succ more ih =>
    refine accord.next (accord.nextOutcome refreshes job) fun found => ?_
    obtain ⟨outcome, later⟩ := found
    cases outcome with
    | none => exact accord.give _
    | some outcome =>
      refine accord.next (hands outcome) fun answer => ?_
      cases answer with
      | none => exact ih later
      | some answer => exact accord.give _

end Placard.Accord
