import Placard.Proofs.Command.Documents
import Placard.Proofs.Command.Unset
import Placard.Proofs.Refresh.Job
import Placard.Proofs.Source.Files

/-! Watching for a number of rounds: which outcomes are handed on, and what is left of them at the end. -/

namespace Placard

/-- A machine some time later. -/
def World.later (world : World) (span : Duration) : World :=
  { world with clock := ⟨world.clock.nanoseconds + span.nanoseconds⟩ }

/-- A job that goes on, for somebody who has seen all its outcomes and waits for more. -/
structure Job.Goes (job : Job) : Prop where
  running : job.ended = false
  wanted : job.cancelled = false
  heard : job.dropped = false
  seen : job.unseen = false

namespace Refresh

variable (refresh : Refresh (StateM World)) {α : Type}

/-- A job that goes on rests until its next render is due, if it knows when that is. -/
theorem rest_later {job : Job} (goes : job.Goes) (world : World) :
    ∃ span, (job.rest : StateM World Unit).run world = ((), world.later span) ∧
      (job.due.getD (world.later span).clock).nanoseconds ≤ (world.later span).clock.nanoseconds := by
  unfold Job.rest
  rw [goes.running, goes.wanted]
  cases due : job.due with
  | none => exact ⟨⟨0⟩, rfl, Nat.le_refl _⟩
  | some moment =>
    refine ⟨⟨moment.nanoseconds - world.clock.nanoseconds⟩, rfl, ?_⟩
    show moment.nanoseconds ≤ world.clock.nanoseconds + (moment.nanoseconds - world.clock.nanoseconds)
    omega

/-- Whoever waits for a job that goes on gets the outcome of one more render, and the job goes on. -/
theorem next_renders {job : Job} (goes : job.Goes) (world : World) :
    ∃ span later, (refresh.next job).run world =
        ((some ((refresh.renderOnce job.shared).run (world.later span)).1.1, later),
          ((refresh.renderOnce job.shared).run (world.later span)).2) ∧
      later.Goes ∧ later.shared = ((refresh.renderOnce job.shared).run (world.later span)).1.2 := by
  obtain ⟨span, rested, due⟩ := rest_later goes world
  let woken := world.later span
  let rendered := (refresh.renderOnce job.shared).run woken
  let next := refresh.following (job.due.getD woken.clock) woken.clock
  have now : (Machine.now : StateM World Duration).run woken = (woken.clock, woken) := rfl
  -- The render is due when the rest is over, and its outcome is taken as soon as it is published.
  have turned : (refresh.turn job).run woken =
      ({ job with shared := rendered.1.2, due := some next }.publish rendered.1.1, rendered.2) := by
    have late : ¬woken.clock.nanoseconds < (job.due.getD woken.clock).nanoseconds := Nat.not_lt.mpr due
    rw [turn, goes.running, goes.wanted]
    simp only [Bool.false_eq_true, if_false, StateT.run_bind, now, id_bind_eq, if_neg late]
    rfl
  have proceeded : (refresh.proceed job).run world = (refresh.turn job).run woken := by
    rw [proceed, StateT.run_bind, rested]
    rfl
  let later : Job :=
    { job with
      shared := rendered.1.2
      due := some next
      latest := some rendered.1.1
      unseen := false
      dropped := false }
  refine ⟨span, later, ?_, ⟨goes.running, goes.wanted, rfl, rfl⟩, rfl⟩
  rw [Refresh.next, goes.seen]
  simp only [Bool.false_eq_true, if_false, StateT.run_bind, proceeded, turned]
  rw [Job.publish, goes.heard]
  rfl

/-- Outcomes handed on one after another, each from a render of its own some time after the one before, and none of
them answered: from connections and a machine to those that are there at the end. -/
inductive Handed (hand : Outcome → StateM World (Option α)) :
    Shared → World → List Outcome → Shared → World → Prop
  | done (shared : Shared) (world : World) : Handed hand shared world [] shared world
  | round {shared renewed last : Shared} {world rendered handed after : World} {span : Duration}
      {outcome : Outcome} {outcomes : List Outcome} :
    (refresh.renderOnce shared).run (world.later span) = ((outcome, renewed), rendered) →
    (hand outcome).run rendered = (none, handed) →
    Handed hand renewed handed outcomes last after →
    Handed hand shared world (outcome :: outcomes) last after

/-- One more outcome, which is answered. -/
inductive Answered (hand : Outcome → StateM World (Option α)) (shared : Shared) (world : World) :
    α → World → Prop
  | round {renewed : Shared} {rendered after : World} {span : Duration} {outcome : Outcome} {answer : α} :
    (refresh.renderOnce shared).run (world.later span) = ((outcome, renewed), rendered) →
    (hand outcome).run rendered = (some answer, after) → Answered hand shared world answer after

/-- Rounds hand on as many outcomes as there are rounds, unless one of them is answered before. -/
theorem rounds_handed (hand : Outcome → StateM World (Option α)) (count : Nat) : ∀ {job : Job}, job.Goes →
    ∀ world, ∃ outcomes shared handed, refresh.Handed hand job.shared world outcomes shared handed ∧
      ((outcomes.length = count ∧ ∃ later, (refresh.rounds hand count job).run world = ((none, later), handed)) ∨
        (outcomes.length < count ∧ ∃ answer after later, refresh.Answered hand shared handed answer after ∧
          (refresh.rounds hand count job).run world = ((some answer, later), after))) := by
  -- The induction is on the rounds that are left, from any job that goes on and any machine.
  induction count with
  | zero =>
    intro job _ world
    exact ⟨[], job.shared, world, .done _ _, .inl ⟨rfl, job, rfl⟩⟩
  | succ count ih =>
    intro job goes world
    obtain ⟨span, later, found, on, same⟩ := refresh.next_renders goes world
    rcases render : (refresh.renderOnce job.shared).run (world.later span) with ⟨⟨outcome, renewed⟩, rendered⟩
    rw [render] at found same
    rcases given : (hand outcome).run rendered with ⟨answer, handed⟩
    have step : (refresh.rounds hand (count + 1) job).run world =
        match answer with
        | some answer => ((some answer, later), handed)
        | none => (refresh.rounds hand count later).run handed := by
      rw [rounds, StateT.run_bind, found]
      simp only [id_bind_eq, StateT.run_bind, given]
      cases answer <;> rfl
    cases answer with
    | some answer =>
      exact ⟨[], job.shared, world, .done _ _, .inr ⟨Nat.succ_pos count, answer, handed, later,
        .round render given, step⟩⟩
    | none =>
      -- The other rounds go on from the connections of this one, on the machine that it left.
      obtain ⟨outcomes, shared, last, others, ended⟩ := ih on handed
      rw [same] at others
      refine ⟨outcome :: outcomes, shared, last, .round render given others, ?_⟩
      rw [step]
      obtain ⟨full, ended⟩ | ⟨short, ended⟩ := ended
      · exact .inl ⟨congrArg (· + 1) full, ended⟩
      · exact .inr ⟨Nat.succ_lt_succ short, ended⟩

end Refresh

namespace Command

section

variable {m : Type → Type} [Monad m] [Machine m]

/-- What a watch refreshes, and the connections from which it starts. -/
def prepared (connect : Connect m) (context : Context) (choice : WatchChoice) :
    ExceptT Failure m (Refresh m × Registry) := do
  let template ← choice.template.load context.settings
  let registry := context.withSecrets (← context.registry)
  let renderer ← context.renderer connect (choice.template.shownNote context.settings)
  let interval := choice.interval.getD context.settings.refreshInterval
  return (Refresh.make renderer template interval (return .ofVariables context.environment)
    (some (reload context)), registry)

/-- A watch is prepared, and then goes on for its rounds; at the end its job is stopped. -/
theorem runWatch_prepared [LawfulMonad m] (connect : Connect m) (context : Context) (presentation : Presentation)
    (choice : WatchChoice) :
    runWatch connect context presentation choice = (do
      let (refresh, registry) ← prepared connect context choice
      let (failure, job) ← ExceptT.lift
        (refresh.rounds (emit presentation choice.out) choice.rounds (.spawn (.ofRegistry registry)))
      let _ ← ExceptT.lift (refresh.proceed job.cancel)
      match failure with
      | some failure => throw failure
      | none => return ()) := by
  unfold prepared
  simp only [bind_assoc, pure_bind]
  rfl

end

variable (fetch : Fetch (StateM World)) (context : Context) (presentation : Presentation) (choice : WatchChoice)

/-- Preparing a watch only looks at the machine. -/
theorem prepared_still (world : World) :
    (outcome (prepared (Transport.connect fetch) context choice) world).2 = world := by
  have loaded := choice.template.still_load context.settings world
  unfold prepared
  rw [outcome_bind]
  rcases ran : outcome (choice.template.load context.settings) world with ⟨result, after⟩
  rw [ran] at loaded
  obtain rfl : after = world := loaded
  cases result with
  | error failure => rfl
  | ok template =>
    dsimp only
    rw [outcome_bind, Context.outcome_registry]
    cases Registry.loaded after.disk context.connectionsPath with
    | error error => rfl
    | ok registry =>
      show (outcome _ after).2 = after
      rw [outcome_bind]
      obtain ⟨failure, fails⟩ | looks := context.exists_renderer fetch after.disk
      · rw [fails _ after rfl]
      · rw [looks _ after rfl]
        rfl

/-- Putting an outcome out never fails. -/
theorem emit_none {outcome : Outcome} {rendered after : World} {failure : Failure} :
    (emit presentation none outcome : StateM World (Option Failure)).run rendered ≠ (some failure, after) := by
  intro failed
  cases (emit_run presentation outcome rendered).symm.trans failed

/-- An outcome that is kept in a file without a failure is what the file holds. -/
theorem read_of_emit {path : String} {outcome : Outcome} {rendered after : World}
    (kept : (emit presentation (some path) outcome : StateM World (Option Failure)).run rendered = (none, after)) :
    after.disk.read path = .ok (Text.bytes outcome.text.toList) := by
  rcases saved : (Machine.writeText path outcome.text : StateM World (Except FileFault Unit)).run rendered with
    ⟨result, left⟩
  rw [emit, StateT.run_bind, saved] at kept
  cases result with
  | error fault => cases kept
  | ok _ =>
    cases kept
    exact Source.read_of_writeText saved

/-- The file of a watch holds the last outcome that was handed on. -/
theorem read_of_handed {refresh : Refresh (StateM World)} {path : String} {shared last : Shared}
    {world after : World} {outcomes : List Outcome}
    (handed : refresh.Handed (emit presentation (some path)) shared world outcomes last after) :
    ∀ final ∈ outcomes.getLast?, after.disk.read path = .ok (Text.bytes final.text.toList) := by
  -- Every round writes the file anew, so only the last one counts.
  induction handed with
  | done => simp
  | @round _ _ _ _ _ _ _ _ outcome outcomes render kept others ih =>
    intro final member
    cases outcomes with
    | nil =>
      -- Nothing was written behind the only outcome.
      cases others
      obtain rfl : outcome = final := by simpa using member
      exact read_of_emit presentation kept
    | cons next outcomes =>
      rw [List.getLast?_cons_cons] at member
      exact ih final member

/-- How a watch goes that was prepared, with the outcomes that it hands on: all its rounds are over, or one more
outcome could not be handed on. -/
inductive Goes (presentation : Presentation) (choice : WatchChoice) (refresh : Refresh (StateM World))
    (registry : Registry) (world : World) (outcomes : List Outcome) : Except Failure Unit → World → Prop
  | complete {shared : Shared} {handed : World} :
    refresh.Handed (emit presentation choice.out) (.ofRegistry registry) world outcomes shared handed →
    outcomes.length = choice.rounds → Goes presentation choice refresh registry world outcomes (.ok ()) handed
  | stopped {shared : Shared} {handed after : World} {failure : Failure} :
    refresh.Handed (emit presentation choice.out) (.ofRegistry registry) world outcomes shared handed →
    outcomes.length < choice.rounds → refresh.Answered (emit presentation choice.out) shared handed failure after →
    Goes presentation choice refresh registry world outcomes (.error failure) after

section

variable {presentation choice} {refresh : Refresh (StateM World)} {registry : Registry} {world after : World}
  {outcomes : List Outcome} {result : Except Failure Unit}

/-- A watch that ends well has handed its outcomes on in all its rounds. -/
theorem Goes.all (goes : Goes presentation choice refresh registry world outcomes result after)
    (well : result = .ok ()) : outcomes.length = choice.rounds ∧ ∃ shared,
      refresh.Handed (emit presentation choice.out) (.ofRegistry registry) world outcomes shared after := by
  cases goes with
  | complete course full => exact ⟨full, _, course⟩
  | stopped => cases well

/-- Where outcomes are put out, a watch ends well. -/
theorem Goes.well (goes : Goes presentation choice refresh registry world outcomes result after)
    (out : choice.out = none) : result = .ok () := by
  cases goes with
  | complete => rfl
  | stopped _ _ answered =>
    rw [out] at answered
    cases answered with
    | round _ failed => exact absurd failed (emit_none presentation)

end

/-- A watch that was prepared goes its rounds, and the job that is stopped at the end does nothing more. -/
theorem outcome_runWatch {world : World} {refresh : Refresh (StateM World)} {registry : Registry}
    (ready : outcome (prepared (Transport.connect fetch) context choice) world = (.ok (refresh, registry), world)) :
    ∃ outcomes, Goes presentation choice refresh registry world outcomes
      (outcome (runWatch (Transport.connect fetch) context presentation choice) world).1
      (outcome (runWatch (Transport.connect fetch) context presentation choice) world).2 := by
  have spawned : (Job.spawn (.ofRegistry registry)).Goes := ⟨rfl, rfl, rfl, rfl⟩
  obtain ⟨outcomes, shared, handed, course, ended⟩ :=
    refresh.rounds_handed (emit presentation choice.out) choice.rounds spawned world
  refine ⟨outcomes, ?_⟩
  have stops (job : Job) (state : World) :
      outcome (ExceptT.lift (refresh.proceed job.cancel)) state =
        (.ok ((refresh.proceed job.cancel).run state).1, state) := by
    have stopped : job.cancel.Stopped := .inl rfl
    obtain ⟨later, silent, -⟩ := (refresh.silent_of_stopped stopped).ends
    rw [outcome_lift, silent]
    rfl
  rw [runWatch_prepared, outcome_bind, ready]
  dsimp only
  rw [outcome_bind, outcome_lift]
  obtain ⟨full, later, ran⟩ | ⟨short, failure, after, later, answered, ran⟩ := ended
  · rw [ran]
    dsimp only
    rw [outcome_bind, stops]
    exact .complete course full
  · rw [ran]
    dsimp only
    rw [outcome_bind, stops]
    exact .stopped course short answered

/-- A watch with a number of rounds hands on as many outcomes, though at least one.

If it cannot be prepared, it hands nothing on and leaves the machine as it was. Otherwise each outcome comes from one
render of the refresh, in order and once: the next one is made some time after the one before was handed on, with
the connections as they are then. When all are handed on the watch ends well, and a file that is to hold them
holds the last one. Only an outcome that cannot be kept in its file ends a watch before, and nothing is put
out that way. -/
theorem watch_hands_on {choice : WatchChoice} {count : Nat} (counted : choice.count = some count)
    (fetch : Fetch (StateM World)) (context : Context) (presentation : Presentation) (world : World) :
    let ready := outcome (prepared (Transport.connect fetch) context choice) world
    let run := outcome (runWatch (Transport.connect fetch) context presentation choice) world
    (∀ failure, ready.1 = .error failure → run = (.error failure, world)) ∧
    ∀ refresh registry, ready.1 = .ok (refresh, registry) →
      ∃ outcomes, Goes presentation choice refresh registry world outcomes run.1 run.2 ∧
        (run.1 = .ok () → outcomes.length = max 1 count ∧ ∀ path, choice.out = some path →
          ∃ last, outcomes.getLast? = some last ∧
            run.2.disk.read path = .ok (Text.bytes last.text.toList)) ∧
        (choice.out = none → run.1 = .ok ()) := by
  intro ready run
  have still : ready.2 = world := prepared_still fetch context choice world
  constructor
  · intro failure failed
    have ended : outcome (prepared (Transport.connect fetch) context choice) world = (.error failure, world) :=
      Prod.ext failed still
    show outcome (runWatch (Transport.connect fetch) context presentation choice) world = _
    rw [runWatch_prepared, outcome_bind, ended]
  · intro refresh registry made
    obtain ⟨outcomes, goes⟩ := outcome_runWatch fetch context presentation choice (Prod.ext made still)
    refine ⟨outcomes, goes, ?_, goes.well⟩
    intro well
    obtain ⟨full, shared, course⟩ := goes.all well
    have rounds : choice.rounds = max 1 count := by rw [WatchChoice.rounds, counted, Option.getD_some]
    refine ⟨full.trans rounds, ?_⟩
    intro path out
    -- There is an outcome, as there is a round.
    have some_ : outcomes ≠ [] := by
      apply List.ne_nil_of_length_pos
      omega
    rw [out] at course
    exact ⟨_, List.getLast?_eq_some_getLast some_,
      read_of_handed presentation course _ (List.getLast?_eq_some_getLast some_)⟩

/-- An empty machine. -/
def emptyMachine : World := ⟨⟨[], []⟩, [], ⟨0⟩, "", ""⟩

/-- A watch on an empty machine that keeps a text in a file for a number of rounds. -/
def keeping (count : Nat) : WatchChoice :=
  { template := { text := some "x" }, count := some count, out := some "f" }

/-- What such a watch works on. -/
def keepingContext : Context :=
  ({ settings := some "config.toml", connections := some "list" } : Sources).context [] Settings.usual

/-- How such a watch ends. -/
def kept (count : Nat) : Except Failure Unit × World :=
  outcome (runWatch (Transport.connect Source.fetch) keepingContext {} (keeping count)) emptyMachine

/-- In two rounds, two outcomes are handed on, of which the file holds the last one. -/
theorem watch_hands_on_twice : (kept 2).1 = .ok () ∧ ∃ refresh registry outcomes,
    Goes {} (keeping 2) refresh registry emptyMachine outcomes (kept 2).1 (kept 2).2 ∧ outcomes.length = 2 ∧
      ∃ last, outcomes.getLast? = some last ∧
        (kept 2).2.disk.read "f" = .ok (Text.bytes last.text.toList) := by
  obtain ⟨-, watched⟩ := @watch_hands_on (keeping 2) 2 rfl Source.fetch keepingContext {} emptyMachine
  obtain ⟨⟨refresh, registry⟩, ready⟩ : ∃ made,
      (outcome (prepared (Transport.connect Source.fetch) keepingContext (keeping 2)) emptyMachine).1 = .ok made :=
    ⟨_, rfl⟩
  obtain ⟨outcomes, goes, ended, -⟩ := watched refresh registry ready
  have well : (kept 2).1 = .ok () := by rfl
  obtain ⟨two, held⟩ := ended well
  exact ⟨well, refresh, registry, outcomes, goes, two, held "f" rfl⟩

/-- In no rounds at all, one outcome is still handed on, and the file is written. -/
theorem watch_hands_on_once :
    (kept 0).1 = .ok () ∧ emptyMachine.disk.node? "f" = none ∧
      (kept 0).2.disk.node? "f" = some (.file (Text.bytes ['x'])) := by
  decide +kernel

end Command

end Placard
