import Placard.Proofs.Command.Agreement
import Placard.Proofs.Command.Quiet
import Placard.Proofs.Refresh.Harmless

/-! Commands that ask sources: what the sources spare, and the output file is not, stays as it was. -/

namespace Placard

/-- A machine has the variables, the working directory and, at places that are kept, the nodes of another one. -/
structure World.Spared (kept : Place → Prop) (start world : World) : Prop where
  environment : world.environment = start.environment
  working : world.disk.working = start.disk.working
  nodes : ∀ place, kept place → world.disk.at? place = start.disk.at? place

/-- Whenever a command reads its connections while what is kept is as it was, they can be asked without harm. -/
def Context.Harmless (fetch : Fetch (StateM World)) (kept : Place → Prop) (start : World) (context : Context) :
    Prop :=
  ∀ world registry, World.Spared kept start world →
    Registry.loaded world.disk context.connectionsPath = .ok registry →
    (context.withSecrets registry).Harmless fetch context.budget (World.Spared kept start)

/-- A path names a place for a program that works in a directory: on some disk it leads there. -/
def Path.Names (working : Place) (path : String) (place : Place) : Prop :=
  ∃ disk : Disk, disk.working = working ∧ disk.locate path = .ok place

variable {kept : Place → Prop} {start world : World} {fetch : Fetch (StateM World)} {registry : Registry}
  {α β : Type} {gives : α → Prop} {after : β → Prop}

namespace World.Spared

/-- Nothing has happened to a machine yet. -/
theorem refl (kept : Place → Prop) (world : World) : World.Spared kept world world := ⟨rfl, rfl, fun _ _ => rfl⟩

/-- What is put out is not kept. -/
theorem shown (spared : World.Spared kept start world) (presentation : Presentation) (text : String) :
    World.Spared kept start (presentation.shown text world) := by
  unfold Presentation.shown
  split
  · exact spared
  · exact ⟨spared.environment, spared.working, spared.nodes⟩

/-- Remarks are not kept. -/
theorem noted (spared : World.Spared kept start world) (presentation : Presentation) (text : String) :
    World.Spared kept start (presentation.noted text world) := by
  unfold Presentation.noted
  split
  · exact spared
  · exact ⟨spared.environment, spared.working, spared.nodes⟩

/-- A text written at a path that names no kept place spares what is kept. -/
theorem write (spared : World.Spared kept start world) {path : String}
    (apart : ∀ place, Path.Names start.disk.working path place → ¬kept place) {content : List UInt8} {disk : Disk}
    (written : world.disk.write path content = .ok disk) :
    World.Spared kept start { world with disk := disk } := by
  -- One node is put at the place of the path, and that place is not kept.
  obtain ⟨place, located, vacant, -, rfl⟩ := Disk.write_eq_ok_iff.mp written
  refine ⟨spared.environment, spared.working ▸ Disk.put_working .., fun other isKept => ?_⟩
  have elsewhere : other ≠ place := fun same => apart place ⟨_, spared.working, located⟩ (same ▸ isKept)
  rw [Disk.at?_put world.disk (Disk.ne_nil_of_file vacant), if_neg (by simpa using elsewhere)]
  exact spared.nodes other isKept

end World.Spared

/-! ### Commands -/

/-- An action of a command gives what it should, unless it fails, and spares what is kept all the same. -/
def Spares (kept : Place → Prop) (start : World) (gives : α → Prop) (action : ExceptT Failure (StateM World) α) :
    Prop :=
  ∀ world, World.Spared kept start world →
    (∀ value, (outcome action world).1 = .ok value → gives value) ∧
      World.Spared kept start (outcome action world).2

namespace Spares

/-- What comes next begins with what the first action gave, unless that failed. -/
theorem bind {action : ExceptT Failure (StateM World) α} {next : α → ExceptT Failure (StateM World) β}
    (first : Spares kept start gives action) (second : ∀ value, gives value → Spares kept start after (next value)) :
    Spares kept start after (action >>= next) := by
  -- A failure ends the command, and what came before it has spared what is kept.
  intro world spared
  obtain ⟨given, left⟩ := first world spared
  rw [outcome_bind]
  rcases ran : outcome action world with ⟨result, reached⟩
  rw [ran] at given left
  cases result with
  | error failure => exact ⟨fun _ failed => (nomatch failed), left⟩
  | ok value => exact second value (given value rfl) reached left

/-- An action of the machine spares what is kept within a command too. -/
theorem lift {action : StateM World α} (sparing : Preserves (World.Spared kept start) gives action) :
    Spares kept start gives (ExceptT.lift action) := by
  intro world spared
  rw [outcome_lift]
  obtain ⟨given, left⟩ := sparing world spared
  exact ⟨fun value same => Except.ok.inj same ▸ given, left⟩

/-- An action that only looks, and gives what is so on every machine on which it has been spared. -/
theorem of_looks {action : ExceptT Failure (StateM World) α} {result : World → Except Failure α}
    (looks : ∀ world, outcome action world = (result world, world))
    (given : ∀ world value, World.Spared kept start world → result world = .ok value → gives value) :
    Spares kept start gives action := by
  intro world spared
  rw [looks]
  exact ⟨fun value => given world value spared, spared⟩

/-- A failure spares everything. -/
theorem throw (failure : Failure) : Spares kept start gives (throw failure) :=
  fun _ spared => ⟨fun _ failed => (nomatch failed), spared⟩

/-- Putting a result out spares what is kept. -/
theorem putView (presentation : Presentation) (view : View) :
    Spares kept start (fun _ => True) (presentation.putView view) := by
  intro world spared
  rw [Presentation.outcome_putView]
  exact ⟨fun _ _ => trivial, spared.shown ..⟩

/-- Making a remark spares what is kept. -/
theorem remark (presentation : Presentation) (text : String) :
    Spares kept start (fun _ => True) (presentation.remark text) := by
  intro world spared
  rw [Presentation.outcome_remark]
  exact ⟨fun _ _ => trivial, spared.noted ..⟩

variable {context : Context}

/-- The connections that a command loads can be asked without harm. -/
theorem connections (harmless : context.Harmless fetch kept start) :
    Spares kept start
      (fun registry => (context.withSecrets registry).Harmless fetch context.budget (World.Spared kept start))
      context.registry :=
  .of_looks (Context.outcome_registry context) fun world registry spared loaded =>
    harmless world registry spared (mapError_eq_ok_iff.mp loaded)

/-- The connection of a name is one of the registry. -/
theorem find (registry : Registry) (name : String) :
    Spares kept start (· ∈ registry.toList) (Command.find registry name) := by
  intro world spared
  rw [outcome_find]
  cases held : registry.get? name with
  | none => exact ⟨fun _ failed => (nomatch failed), spared⟩
  | some connection =>
    refine ⟨?_, spared⟩
    rintro _ ⟨⟩
    exact List.mem_map_of_mem (Keyed.mem_of_lookup held)

/-- Loading a template spares everything. -/
theorem template (choice : TemplateChoice) (settings : Settings) :
    Spares kept start (fun _ => True) (choice.load settings) := by
  unfold TemplateChoice.load
  split
  · exact fun world spared => ⟨fun _ _ => trivial, spared⟩
  · refine Spares.bind (fun world spared => ⟨fun _ _ => trivial, ?_⟩) fun text _ world spared =>
      ⟨fun _ _ => trivial, spared⟩
    rw [outcome_orFail, readText_run_eq]
    exact spared
  · exact fun world spared => ⟨fun _ _ => trivial, spared⟩

/-- Setting up the fetching of sources spares everything, and gives the fetcher that it is to give. -/
theorem renderer (context : Context) (note : Option String) :
    Spares kept start (fun renderer => renderer.fetch = fetch ∧ renderer.budget = context.budget)
      (context.renderer (Transport.connect fetch) note) := by
  -- Whether a fetcher can be set up is decided by settings and certificates, by looking only.
  intro world spared
  rcases context.exists_renderer fetch world.disk with ⟨failure, fails⟩ | looks
  · rw [fails note world rfl]
    exact ⟨fun _ failed => (nomatch failed), spared⟩
  · rw [looks note world rfl]
    refine ⟨?_, spared⟩
    rintro _ ⟨⟩
    exact ⟨rfl, rfl⟩

/-- Rendering spares what is kept. -/
theorem runRender (harmless : context.Harmless fetch kept start) (presentation : Presentation)
    (choice : TemplateChoice) (explain : Bool) : Spares kept start (fun _ => True)
      (Command.runRender (Transport.connect fetch) context presentation choice explain) := by
  -- Step by step: the template, the connections, the fetcher, the report, and the output.
  refine (template choice _).bind fun text _ => ?_
  refine (connections harmless).bind fun registry safe => ?_
  refine (renderer context _).bind fun renderer same => ?_
  obtain ⟨asked, budget, note⟩ := renderer
  obtain ⟨rfl, rfl⟩ := same
  refine (Spares.lift (safe.report text _)).bind fun report _ => ?_
  split
  · exact (remark presentation _).bind fun _ _ => putView presentation _
  · exact putView presentation _

/-- Testing a connection spares what is kept. -/
theorem runTest (harmless : context.Harmless fetch kept start) (presentation : Presentation) (name : String) :
    Spares kept start (fun _ => True) (Command.runTest (Transport.connect fetch) context presentation name) := by
  -- The connection that is found gets its secret first, and is then one of the harmless ones.
  refine (connections harmless).bind fun registry safe => ?_
  refine (find registry name).bind fun connection member => ?_
  refine (renderer context _).bind fun renderer same => ?_
  obtain ⟨asked, budget, note⟩ := renderer
  obtain ⟨rfl, rfl⟩ := same
  exact (lift (safe _ (filled_mem member))).bind fun inspection _ => putView presentation _

/-- Handing a text on spares what is kept, if the file that it goes to is another one. -/
theorem emit (presentation : Presentation) {out : Option String}
    (apart : ∀ path ∈ out, ∀ place, Path.Names start.disk.working path place → ¬kept place) (made : Outcome) :
    Preserves (World.Spared kept start) (fun _ => True)
      (Command.emit presentation out made : StateM World (Option Failure)) := by
  intro world spared
  refine ⟨trivial, ?_⟩
  cases out with
  | none =>
    show World.Spared kept start ((presentation.put (made.document presentation) : StateM World Unit).run world).2
    unfold Presentation.put
    split
    · exact spared
    · exact ⟨spared.environment, spared.working, spared.nodes⟩
  | some path =>
    -- A write that fails leaves the disk alone; one that is done goes to the output file.
    rw [Command.emit, StateT.run_bind, writeText_run]
    cases written : world.disk.write path (Text.bytes made.text.toList) with
    | error fault => exact spared
    | ok disk => exact spared.write (apart path rfl) written

/-- The connections that are read anew can be asked without harm. -/
theorem reload (harmless : context.Harmless fetch kept start) :
    Preserves (World.Spared kept start)
      (fun fresh => ∀ registry ∈ fresh,
        Registry.Harmless fetch context.budget (World.Spared kept start) registry)
      (Command.reload context : StateM World (Option Registry)) := by
  intro world spared
  -- What cannot be read is left out, and the refresh goes on with what it had.
  rw [Command.reload, StateT.run_bind, Registry.load_run_eq, id_bind_eq]
  cases loaded : Registry.loaded world.disk context.connectionsPath with
  | error error => exact ⟨fun _ none => (nomatch none), spared⟩
  | ok registry =>
    refine ⟨?_, spared⟩
    rintro _ ⟨⟩
    exact harmless world registry spared loaded

/-- Rounds of a harmless refresh, and the end of its job, spare what is kept. -/
theorem rounds {refresh : Refresh (StateM World)} (harmless : refresh.Harmless (World.Spared kept start))
    (safe : registry.Harmless refresh.renderer.fetch refresh.renderer.budget (World.Spared kept start))
    {hand : Outcome → StateM World (Option Failure)}
    (hands : ∀ made, Preserves (World.Spared kept start) (fun _ => True) (hand made)) (count : Nat) :
    Spares kept start (fun _ => True) (do
      let (failure, job) ← ExceptT.lift (refresh.rounds hand count (.spawn (.ofRegistry registry)))
      let _ ← ExceptT.lift (refresh.proceed job.cancel)
      match failure with
      | some failure => MonadExcept.throw failure
      | none => return ()) := by
  have begins : refresh.Shares (World.Spared kept start) (Job.spawn (.ofRegistry registry)).shared := safe
  refine (lift (harmless.rounds hands count begins)).bind fun found held => ?_
  obtain ⟨failure, job⟩ := found
  have cancelled : refresh.Shares (World.Spared kept start) job.cancel.shared := held
  refine (lift (harmless.proceed cancelled)).bind fun last _ => ?_
  cases failure with
  | none => exact fun world spared => ⟨fun _ _ => trivial, spared⟩
  | some failure => exact .throw failure

/-- Watching spares what is kept, if the output file is another one. -/
theorem runWatch (harmless : context.Harmless fetch kept start) (presentation : Presentation)
    (choice : WatchChoice)
    (apart : ∀ path ∈ choice.out, ∀ place, Path.Names start.disk.working path place → ¬kept place) :
    Spares kept start (fun _ => True)
      (Command.runWatch (Transport.connect fetch) context presentation choice) := by
  -- The refresh that is watched reads the connections anew, asks for facts and waits, all without harm.
  refine (template choice.template _).bind fun text _ => ?_
  refine (connections harmless).bind fun registry safe => ?_
  refine (renderer context _).bind fun renderer same => ?_
  obtain ⟨asked, budget, note⟩ := renderer
  obtain ⟨rfl, rfl⟩ := same
  have watched : Refresh.Harmless (.make ⟨asked, context.budget, note⟩ text
      (choice.interval.getD context.settings.refreshInterval) (return .ofVariables context.environment)
      (some (Command.reload context))) (World.Spared kept start) :=
    ⟨reload harmless, .pure trivial, fun _ _ spared =>
      ⟨trivial, spared.environment, spared.working, spared.nodes⟩⟩
  exact rounds watched safe (emit presentation apart) choice.rounds

end Spares

/-- A command that asks sources spares what they spare, if it puts nothing there itself. -/
theorem Invocation.spares {invocation : Invocation} (asks : invocation.command.asks = true)
    (harmless : ∀ context, Looks (Context.load invocation.sources) start context → context.Harmless fetch kept start)
    (apart : ∀ choice, invocation.command = .watch choice →
      ∀ path ∈ choice.out, ∀ place, Path.Names start.disk.working path place → ¬kept place) :
    World.Spared kept start (outcome (invocation.run (Transport.connect fetch)) start).2 := by
  obtain ⟨command, sources, presentation⟩ := invocation
  -- Settings are loaded first, and the command runs if that is done.
  have loads {next : Context → ExceptT Failure (StateM World) Unit}
      (spares : ∀ context : Context, context.Harmless fetch kept start →
        Spares kept start (fun _ => True) (next context)) :
      World.Spared kept start (outcome (Context.load sources >>= next) start).2 := by
    rw [outcome_bind]
    rcases ran : outcome (Context.load sources) start with ⟨result, after⟩
    have same : after = start := by
      rw [Context.outcome_load] at ran
      exact (Prod.mk.inj ran).2.symm
    subst same
    cases result with
    | error failure => exact .refl kept _
    | ok context => exact (spares context (harmless context ran) _ (.refl kept _)).2
  cases command with
  | render template explain => exact loads fun context safe => .runRender safe presentation template explain
  | watch choice => exact loads fun context safe => .runWatch safe presentation choice (apart choice rfl)
  | connections command =>
    cases command with
    | test name => exact loads fun context safe => .runTest safe presentation name
    | _ => cases asks
  | _ => cases asks

end Placard
