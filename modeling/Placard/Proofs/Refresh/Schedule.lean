import Placard.Proofs.Refresh.Job
import Placard.Proofs.Refresh.Recorded

/-! A refresh that runs by the clock: when its outcomes come, and how it ends. -/

namespace Placard

/-- A clock that the state of a machine shows; it moves when the program waits. -/
structure Clock (σ : Type) [Machine (StateM σ)] where
  time : σ → Duration
  now_run : ∀ state, (Machine.now : StateM σ Duration).run state = (time state, state)
  pause_time : ∀ (span : Duration) state,
    time ((Machine.pause span : StateM σ Unit).run state).2 =
      ⟨(time state).nanoseconds + span.nanoseconds⟩
  kind_time : ∀ (path : String) state,
    time ((Machine.kind? path : StateM σ (Option NodeKind)).run state).2 = time state

variable {σ : Type} [Machine (StateM σ)]

/-- An action takes no time, from whatever state it starts. -/
def Clock.Instant (clock : Clock σ) {α : Type} (action : StateM σ α) : Prop :=
  ∀ state, clock.time (action.run state).2 = clock.time state

namespace Clock

/-- The clock of a machine that is a value. -/
def world : Clock World := ⟨World.clock, fun _ => rfl, fun _ _ => rfl, fun _ _ => rfl⟩

namespace Instant

variable {clock : Clock σ}

/-- A value is handed on at once. -/
theorem pure {α : Type} (value : α) : clock.Instant (Pure.pure value : StateM σ α) := fun _ => rfl

/-- Two actions that take no time take none together. -/
theorem bind {α β : Type} {action : StateM σ α} {next : α → StateM σ β} (first : clock.Instant action)
    (second : ∀ value, clock.Instant (next value)) : clock.Instant (action >>= next) :=
  fun state => (second _ _).trans (first state)

/-- An action that takes no time takes none for many values either. -/
theorem mapM {α β : Type} {action : α → StateM σ β} (each : ∀ value, clock.Instant (action value))
    (values : List α) : clock.Instant (values.mapM action) := by
  induction values with
  | nil => exact .pure []
  | cons value values ih =>
    rw [List.mapM_cons]
    exact (each value).bind fun _ => ih.bind fun _ => .pure _

/-- Looking at the clock takes no time. -/
theorem now : clock.Instant (Machine.now : StateM σ Duration) := by
  intro state
  rw [clock.now_run]

/-- Resolving a connection takes no time if fetching takes none. -/
theorem resolveTag {renderer : Renderer (StateM σ)}
    (fetch : ∀ source, clock.Instant (renderer.fetch source renderer.budget)) (connection : Connection) :
    clock.Instant (renderer.resolveTag connection) := by
  have source : clock.Instant (connection.source : StateM σ Source) :=
    Instant.bind (Instant.bind (clock.kind_time connection.url) fun _ => .pure _) fun _ => .pure _
  refine Instant.bind (Instant.bind (source.bind fun found => (fetch found).bind fun answer => ?_)
    fun _ => .pure _) fun _ => .pure _
  cases answer with
  | error error => exact .pure _
  | ok body => exact .pure _

/-- A render takes no time if nothing that it asks for takes any. -/
theorem renderOnce {refresh : Refresh (StateM σ)}
    (fetch : ∀ source, clock.Instant (refresh.renderer.fetch source refresh.renderer.budget))
    (facts : clock.Instant refresh.facts) (reload : ∀ action ∈ refresh.reload, clock.Instant action)
    (shared : Shared) : clock.Instant (refresh.renderOnce shared) := by
  have consult : clock.Instant refresh.consult := by
    unfold Refresh.consult
    cases given : refresh.reload with
    | none => exact .pure none
    | some action => exact reload action given
  have fill (registry : Registry) : clock.Instant (refresh.fill registry) :=
    facts.bind fun _ => Instant.bind ((mapM (resolveTag fetch) _).bind fun _ => .pure _) fun _ => .pure _
  exact consult.bind fun _ => (fill _).bind fun _ => now.bind fun _ => .pure _

end Instant

end Clock

/-- A job whose next render is due at a time that has not passed. -/
structure Clock.Due (clock : Clock σ) (job : Job) (state : σ) (moment : Duration) : Prop where
  running : job.ended = false
  wanted : job.cancelled = false
  due : job.due.getD (clock.time state) = moment
  ahead : (clock.time state).nanoseconds ≤ moment.nanoseconds

/-- A job for whose next outcome somebody waits, having seen all those before it. -/
structure Clock.Awaited (clock : Clock σ) (job : Job) (state : σ) (moment : Duration) : Prop
    extends clock.Due job state moment where
  heard : job.dropped = false
  seen : job.unseen = false

namespace Refresh

variable (refresh : Refresh (StateM σ)) {clock : Clock σ}

/-- A turn that comes before the next render is due changes nothing. -/
theorem turn_early {job : Job} {state : σ} {moment : Duration} (ready : clock.Due job state moment)
    (early : (clock.time state).nanoseconds < moment.nanoseconds) :
    (refresh.turn job).run state = (job, state) := by
  obtain ⟨running, wanted, due, -⟩ := ready
  simp [turn, running, wanted, clock.now_run, due, early]

/-- A job that waits until its next render is due wakes at that time. -/
theorem rest_time {job : Job} {state : σ} {moment : Duration} (ready : clock.Due job state moment) :
    clock.time ((job.rest : StateM σ Unit).run state).2 = moment := by
  obtain ⟨running, wanted, due, ahead⟩ := ready
  unfold Job.rest
  cases set : job.due with
  | none =>
    rw [set] at due
    simpa [running, wanted] using due
  | some next =>
    obtain rfl : next = moment := by simpa [set] using due
    have passed : (clock.time state).nanoseconds + (next.nanoseconds - (clock.time state).nanoseconds) =
        next.nanoseconds := by omega
    simp [running, wanted, clock.now_run, clock.pause_time, passed]

/-- At the time when a render is due, a job renders once, and sets the next time. -/
theorem proceed_run {job : Job} {state : σ} {moment : Duration} (ready : clock.Due job state moment) :
    let waited := ((job.rest : StateM σ Unit).run state).2
    let rendered := (refresh.renderOnce job.shared).run waited
    (refresh.proceed job).run state =
      ({ job with
          shared := rendered.1.2
          due := some ⟨moment.nanoseconds + refresh.interval.nanoseconds⟩ }.publish rendered.1.1,
        rendered.2) := by
  intro waited rendered
  have woken : clock.time waited = moment := rest_time ready
  obtain ⟨running, wanted, due, ahead⟩ := ready
  have now : job.due.getD moment = moment := by
    cases set : job.due with
    | none => rfl
    | some next => simpa [set] using due
  -- The job wakes when the render is due, so the time after it is counted from there.
  have turned : (refresh.turn job).run waited =
      ({ job with
          shared := rendered.1.2
          due := some ⟨moment.nanoseconds + refresh.interval.nanoseconds⟩ }.publish rendered.1.1,
        rendered.2) := by
    simp [turn, running, wanted, clock.now_run, woken, now, following, rendered]
  simpa [proceed] using turned

/-- The time of an outcome is the time at which its render was done. -/
theorem renderOnce_moment (shared : Shared) (state : σ)
    (instant : clock.Instant (refresh.renderOnce shared)) :
    ((refresh.renderOnce shared).run state).1.1.renderedAt = clock.time state := by
  -- The clock is looked at last, when it still shows the time of the start.
  have same := instant state
  rw [renderOnce_run, clock.now_run] at same ⊢
  exact same

/-- Whoever waits for an outcome gets the one of the next render. -/
theorem next_run {job : Job} {state : σ} {moment : Duration} (awaited : clock.Awaited job state moment)
    (instant : ∀ shared, clock.Instant (refresh.renderOnce shared)) :
    let waited := ((job.rest : StateM σ Unit).run state).2
    let rendered := (refresh.renderOnce job.shared).run waited
    ∃ later : Job, (refresh.next job).run state = ((some rendered.1.1, later), rendered.2) ∧
      later.shared = rendered.1.2 ∧
      clock.Awaited later rendered.2 ⟨moment.nanoseconds + refresh.interval.nanoseconds⟩ := by
  intro waited rendered
  have ran := refresh.proceed_run awaited.toDue
  have woken : clock.time rendered.2 = moment := (instant job.shared waited).trans (rest_time awaited.toDue)
  let later : Job :=
    { job with
      shared := rendered.1.2
      due := some ⟨moment.nanoseconds + refresh.interval.nanoseconds⟩
      latest := some rendered.1.1
      unseen := false }
  refine ⟨later, ?_, rfl, ⟨⟨awaited.running, awaited.wanted, rfl, ?_⟩, awaited.heard, rfl⟩⟩
  · simp [next, awaited.seen, ran, Job.publish, awaited.heard, Job.look, later, rendered, waited]
  · rw [woken]
    exact Nat.le_add_right _ _

/-- Where nobody waits any more, the next render is done and the job ends with it. -/
theorem proceed_drop {job : Job} {state : σ} {moment : Duration} (ready : clock.Due job state moment) :
    let waited := ((job.rest : StateM σ Unit).run state).2
    let rendered := (refresh.renderOnce job.shared).run waited
    ∃ later : Job, (refresh.proceed job.drop).run state = (later, rendered.2) ∧
      later.ended = true ∧ later.shared = rendered.1.2 := by
  intro waited rendered
  have alone : clock.Due job.drop state moment :=
    ⟨ready.running, ready.wanted, ready.due, ready.ahead⟩
  -- The wait does not depend on whether somebody listens.
  have ran := refresh.proceed_run alone
  exact ⟨_, ran, rfl, rfl⟩

/-- The first outcome that is taken is the next one; the others follow it. -/
theorem take_run_some (count : Nat) {job later : Job} {state left : σ} {outcome : Outcome}
    (found : (refresh.next job).run state = ((some outcome, later), left)) :
    let others := (refresh.take count later).run left
    (refresh.take (count + 1) job).run state = ((outcome :: others.1.1, others.1.2), others.2) := by
  simp [take, found]

/-- One outcome more is taken from where the outcomes before it have led to. -/
theorem take_succ_run (count : Nat) : ∀ {job : Job} {state : σ},
    ((refresh.take count job).run state).1.1.length = count →
    let reached := (refresh.take count job).run state
    let found := (refresh.next reached.1.2).run reached.2
    (refresh.take (count + 1) job).run state =
      ((reached.1.1 ++ found.1.1.toList, found.1.2), found.2) := by
  -- The recursion takes the first outcome first, so the induction is on those behind it.
  induction count with
  | zero =>
    intro job state _
    simp only [take]
    cases found : ((refresh.next job).run state).1.1 <;> simp [found]
  | succ count ih =>
    intro job state full
    rcases found : (refresh.next job).run state with ⟨⟨first, later⟩, left⟩
    cases first with
    | none => simp [take, found] at full
    | some outcome =>
      rw [take_run_some refresh count found] at full ⊢
      have behind := ih (by simpa using full)
      rw [take_run_some refresh (count + 1) found, behind]
      rfl

/-- When some outcomes were taken, the next one is due as many intervals after the start. -/
theorem take_awaited (shared : Shared) (start : σ)
    (instant : ∀ shared, clock.Instant (refresh.renderOnce shared)) (count : Nat) :
    let reached := (refresh.take count (.spawn shared)).run start
    reached.1.1.length = count ∧ clock.Awaited reached.1.2 reached.2
      ⟨(clock.time start).nanoseconds + count * refresh.interval.nanoseconds⟩ := by
  -- A job is awaited again after each outcome, one interval later.
  induction count with
  | zero =>
    refine ⟨rfl, ⟨⟨rfl, rfl, ?_, ?_⟩, rfl, rfl⟩⟩ <;> simp [take, Job.spawn]
  | succ count ih =>
    obtain ⟨full, awaited⟩ := ih
    obtain ⟨later, found, -, again⟩ := refresh.next_run awaited instant
    simp only [refresh.take_succ_run count full, found]
    refine ⟨by simp [full], ?_⟩
    have step : count * refresh.interval.nanoseconds + refresh.interval.nanoseconds =
        (count + 1) * refresh.interval.nanoseconds := (Nat.succ_mul _ _).symm
    rwa [Nat.add_assoc, step] at again

/-- Each outcome that is taken comes from one wait and one render behind those before it. -/
theorem take_succ_render (shared : Shared) (start : σ)
    (instant : ∀ shared, clock.Instant (refresh.renderOnce shared)) (count : Nat) :
    let reached := (refresh.take count (.spawn shared)).run start
    let waited := ((reached.1.2.rest : StateM σ Unit).run reached.2).2
    let rendered := (refresh.renderOnce reached.1.2.shared).run waited
    ∃ later : Job, later.shared = rendered.1.2 ∧
      (refresh.take (count + 1) (.spawn shared)).run start =
        ((reached.1.1 ++ [rendered.1.1], later), rendered.2) := by
  obtain ⟨full, awaited⟩ := refresh.take_awaited shared start instant count
  obtain ⟨later, found, same, -⟩ := refresh.next_run awaited instant
  refine ⟨later, same, ?_⟩
  simp only [refresh.take_succ_run count full, found, Option.toList_some]

omit [Machine (StateM σ)] in
/-- An interval that was asked for counts as a second at least. -/
theorem make_interval (renderer : Renderer (StateM σ)) (template : String) (requested : Duration)
    (facts : StateM σ Facts) (reload : Option (StateM σ (Option Registry))) :
    (make renderer template requested facts reload).interval.nanoseconds =
      max requested.nanoseconds 1_000_000_000 := by
  unfold make Duration.longest shortestInterval Duration.ofSeconds
  by_cases short : requested.nanoseconds ≤ 1_000_000_000
  · simp [short]
  · simp only [Nat.one_mul, if_neg short]
    omega

/-- A source that tells how often it was asked, in strokes on the output. -/
def tally : Fetch (StateM World) := fun _ _ => do
  modify fun world => { world with said := world.said ++ "#" }
  return .ok (← get).said

/-- A refresh without an interval, for a connection that is there once the connections were read anew. -/
def tallying : Refresh (StateM World) :=
  make ⟨tally, .ofSeconds 5, none⟩ "\x7bAPI:n\x7d" ⟨0⟩ (return default)
    (some (return some (.ofList [{ name := "n", url := "cmd://n" }])))

/-- A number of its outcomes, taken in an empty world. -/
def tallied (count : Nat) : (List Outcome × Job) × World :=
  (tallying.take count (.spawn (.ofRegistry .empty))).run ⟨⟨[], []⟩, [], ⟨0⟩, "", ""⟩

end Refresh

end Placard
