import Placard.Proofs.Command.Agreement
import Placard.Proofs.Command.Shown
import Placard.Proofs.Registry.Filling
import Placard.Source.Fetch

/-! Commands with a variable unset: where the variable is overlooked, they do what they do with it set. -/

namespace Placard

/-! ### Machines without a variable -/

/-- Variables without those of a name. -/
def Variable.without (name : String) (environment : List (String × String)) : List (String × String) :=
  environment.filter (·.1 != name)

/-- A machine without the variables of a name. -/
def World.without (name : String) (world : World) : World :=
  { world with environment := Variable.without name world.environment }

variable {name : String} {world : World} {α β : Type}

/-- Another variable has the same value. -/
theorem Variable.lookup_without {other : String} (different : other ≠ name)
    (environment : List (String × String)) :
    (without name environment).lookup other = environment.lookup other :=
  Keyed.lookup_filter (·.1 != name) (fun _ => bne_iff_ne.mpr different) environment

/-- What is put out does not depend on variables. -/
@[simp] theorem Presentation.shown_without (presentation : Presentation) (text : String) (world : World) :
    presentation.shown text (world.without name) = (presentation.shown text world).without name := by
  unfold shown
  split <;> rfl

/-- What is remarked does not depend on variables. -/
@[simp] theorem Presentation.noted_without (presentation : Presentation) (text : String) (world : World) :
    presentation.noted text (world.without name) = (presentation.noted text world).without name := by
  unfold noted
  split <;> rfl

/-- An action overlooks a variable: with the variable unset, it gives the same and leaves the same. -/
def Overlooks (name : String) (action : StateM World α) : Prop :=
  ∀ world, action.run (world.without name) = ((action.run world).1, (action.run world).2.without name)

namespace Overlooks

/-- Giving a value overlooks every variable. -/
theorem pure (value : α) : Overlooks name (Pure.pure value) := fun _ => rfl

/-- Two actions in a row overlook what both overlook. -/
theorem bind {action : StateM World α} {next : α → StateM World β} (first : Overlooks name action)
    (second : ∀ value, Overlooks name (next value)) : Overlooks name (action >>= next) := by
  intro world
  rw [StateT.run_bind, first world]
  exact second _ _

/-- An action for each element of a list overlooks what each of them overlooks. -/
theorem mapM {action : α → StateM World β} {items : List α}
    (each : ∀ item ∈ items, Overlooks name (action item)) : Overlooks name (items.mapM action) := by
  induction items with
  | nil => exact .pure []
  | cons item others ih =>
    rw [List.mapM_cons]
    refine (each item List.mem_cons_self).bind fun value => ?_
    exact (ih fun other member => each other (List.mem_cons_of_mem _ member)).bind fun _ => .pure _

/-- A report overlooks a variable when looking at each connection of the registry does. -/
theorem report {renderer : Renderer (StateM World)} {registry : Registry}
    (each : ∀ connection ∈ registry.toList, Overlooks name (connection.inspect renderer.fetch renderer.budget))
    (template : String) (facts : Facts) : Overlooks name (renderer.report template facts registry) := by
  refine (mapM fun connection member => ?_).bind fun tags => .pure _
  -- Only connections that the template mentions are looked at.
  exact ((each connection (List.mem_of_mem_filter member)).bind fun _ => .pure _).bind fun _ => .pure _

/-- Reading a file, or asking the web, overlooks every variable. -/
theorem fetch {source : Source} (noCommand : ∀ line, source ≠ .command line) (budget : Duration) :
    Overlooks name (Source.fetch source budget) := by
  cases source with
  | command line => exact absurd rfl (noCommand line)
  | http request => exact .pure _
  | file path =>
    have read : Overlooks name (Machine.read path) := fun _ => rfl
    rw [Source.fetch, Source.fetchFile]
    split
    · exact .pure _
    · refine read.bind fun content => ?_
      cases content <;> exact .pure _

/-- A connection whose location is no command overlooks every variable. -/
theorem inspect {connection : Connection} (noCommand : Source.command? connection.url = none)
    (budget : Duration) : Overlooks name (connection.inspect Source.fetch budget) := by
  intro world
  have same : ((connection.source : StateM World Source).run (world.without name)).1 =
      ((connection.source : StateM World Source).run world).1 := rfl
  have source (line : String) : ((connection.source : StateM World Source).run world).1 ≠ .command line := by
    show Source.ofLocation _ connection.url _ _ ≠ _
    rw [Source.ofLocation, noCommand]
    split <;> simp
  rw [Connection.inspect_run, Connection.inspect_run, same, fetch source budget world]

end Overlooks

/-- Loading a template leaves the machine as it was. -/
theorem TemplateChoice.still_load (choice : TemplateChoice) (settings : Settings) (world : World) :
    (outcome (choice.load settings) world).2 = world := by
  unfold load
  split
  · rfl
  · rw [outcome_bind, outcome_orFail, readText_run_eq]
    cases world.disk.readText _ <;> rfl
  · rfl

/-- An action on a machine and another one on the machine with a variable unset do the same. -/
def SameUnset (name : String) (action action' : ExceptT Failure (StateM World) α) (world : World) : Prop :=
  outcome action' (world.without name) = ((outcome action world).1, (outcome action world).2.without name)

namespace SameUnset

/-- What comes next goes on from the same value, on the machine that the first action left. -/
theorem bind {action action' : ExceptT Failure (StateM World) α}
    {next next' : α → ExceptT Failure (StateM World) β} (begins : SameUnset name action action' world)
    (goes : ∀ value after, outcome action world = (.ok value, after) →
      SameUnset name (next value) (next' value) after) :
    SameUnset name (action >>= next) (action' >>= next') world := by
  unfold SameUnset at begins ⊢
  rw [outcome_bind, outcome_bind, begins]
  rcases ran : outcome action world with ⟨result, after⟩
  cases result with
  | error failure => rfl
  | ok value => exact goes value after ran

/-- What is found by looking is found without the variable too. -/
theorem of_looks {action action' : ExceptT Failure (StateM World) α} {result : World → Except Failure α}
    (looks : ∀ world, outcome action world = (result world, world))
    (looks' : ∀ world, outcome action' world = (result world, world))
    (same : result (world.without name) = result world) : SameUnset name action action' world := by
  unfold SameUnset
  rw [looks, looks', same]

/-- The same failure ends both actions. -/
theorem throw (failure : Failure) :
    SameUnset name (MonadExcept.throw failure : ExceptT Failure (StateM World) α) (MonadExcept.throw failure)
      world := rfl

/-- An action of the machine that overlooks the variable does so within a command. -/
theorem lift {action : StateM World α} (overlooks : Overlooks name action) :
    SameUnset name (ExceptT.lift action) (ExceptT.lift action) world := by
  unfold SameUnset
  rw [outcome_lift, outcome_lift, overlooks]

/-- The same result is put out. -/
theorem putView (presentation : Presentation) (view : View) :
    SameUnset name (presentation.putView view) (presentation.putView view) world := by
  unfold SameUnset
  rw [Presentation.outcome_putView, Presentation.outcome_putView, Presentation.shown_without]

/-- The same remark is made. -/
theorem remark (presentation : Presentation) (text : String) :
    SameUnset name (presentation.remark text) (presentation.remark text) world := by
  unfold SameUnset
  rw [Presentation.outcome_remark, Presentation.outcome_remark, Presentation.noted_without]

/-- The same connection is found. -/
theorem find (registry : Registry) (label : String) :
    SameUnset name (Command.find registry label) (Command.find registry label) world := by
  unfold SameUnset
  rw [outcome_find, outcome_find]
  cases registry.get? label <;> rfl

/-- The same change is made, or refused. -/
theorem changed (result : Except RegistryError α) :
    SameUnset name (Command.changed result) (Command.changed result) world :=
  of_looks (outcome_changed result) (outcome_changed result) rfl

/-- The template is the same. -/
theorem template (choice : TemplateChoice) (settings : Settings) :
    SameUnset name (choice.load settings) (choice.load settings) world := by
  unfold TemplateChoice.load
  split
  · rfl
  · rename_i path _ _
    have read : SameUnset name (orFail (TemplateChoice.unreadable path) (Machine.readText path))
        (orFail (TemplateChoice.unreadable path) (Machine.readText path)) world := by
      unfold SameUnset
      rw [outcome_orFail, outcome_orFail, readText_run_eq, readText_run_eq]
      rfl
    exact read.bind fun _ _ _ => rfl
  · rfl

/-- A connection is looked for, only to see that it is there. -/
theorem discarded (registry : Registry) (label : String) :
    SameUnset name (discard (Command.find registry label)) (discard (Command.find registry label)) world := by
  unfold SameUnset
  rw [outcome_discard_find, outcome_discard_find]
  cases registry.get? label <;> rfl

/-- The same is told of a connection. -/
theorem summary (connection : Connection) :
    SameUnset name (Command.summarize connection) (Command.summarize connection) world := rfl

/-- The same is told of each connection. -/
theorem summaries (connections : List Connection) :
    SameUnset name (connections.mapM Command.summarize) (connections.mapM Command.summarize) world := by
  have looks (world : World) : outcome (connections.mapM Command.summarize) world =
      (.ok (connections.map (·.summaryOn world.disk)), world) :=
    Looks.mapM (looks_summarize world) connections
  exact of_looks looks looks rfl

end SameUnset

/-! ### Commands without the variable for the file of connections -/

/-- The variable that names the file of connections. -/
def connectionsVariable : String := "WALLINFO_CONNECTIONS_FILE"

/-- What a command works on, with the variable for the file of connections unset and another file in the
settings. -/
def Context.unset (file : Option String) (context : Context) : Context :=
  { context with
    environment := Variable.without connectionsVariable context.environment
    settings := { context.settings with connectionsFile := file } }

/-- The variable of a secret is another one. -/
theorem secretAmong_without (environment : List (String × String)) :
    secretAmong (Variable.without connectionsVariable environment) = secretAmong environment := by
  funext label
  refine Variable.lookup_without ?_ environment
  intro same
  have secret := Variable.isSecret_secretVariable label
  rw [same] at secret
  exact absurd secret (by decide)

/-- The usual path of the settings file does not depend on the variable. -/
theorem usualSettingsPath_without (environment : List (String × String)) :
    usualSettingsPath (Variable.without connectionsVariable environment) = usualSettingsPath environment := by
  rw [usualSettingsPath, usualSettingsPath, Variable.lookup_without (by decide),
    Variable.lookup_without (by decide)]

/-- The facts do not depend on the variable. -/
theorem Facts.ofVariables_without (environment : List (String × String)) :
    ofVariables (Variable.without connectionsVariable environment) = ofVariables environment := by
  rw [ofVariables, ofVariables, Variable.lookup_without (by decide), Variable.lookup_without (by decide)]

namespace Context

variable {context : Context} {file : Option String} {fetch : Fetch (StateM World)}

/-- Trouble with a file fails with the same. -/
@[simp] theorem storeFailure_unset : (context.unset file).storeFailure = context.storeFailure := by
  funext error
  rw [storeFailure, storeFailure, unset, usualSettingsPath_without]

/-- The same secrets are filled in. -/
@[simp] theorem withSecrets_unset (registry : Registry) :
    (context.unset file).withSecrets registry = context.withSecrets registry := by
  rw [withSecrets, withSecrets, unset, secretAmong_without]

/-- Connections that a command has read are those of the file, and the machine is as it was. -/
theorem registry_loaded {registry : Registry} {after : World}
    (ran : outcome context.registry world = (.ok registry, after)) :
    Registry.loaded world.disk context.connectionsPath = .ok registry ∧ world = after := by
  rw [outcome_registry] at ran
  exact ⟨mapError_eq_ok_iff.mp (congrArg Prod.fst ran), congrArg Prod.snd ran⟩

/-- A fetcher that was set up is the one that there is, with the budget of the command. -/
theorem renderer_eq {note : Option String} {renderer : Renderer (StateM World)} {after : World}
    (ran : outcome (context.renderer (Transport.connect fetch) note) world = (.ok renderer, after)) :
    renderer = ⟨fetch, context.budget, note⟩ := by
  rcases context.exists_renderer fetch world.disk with ⟨failure, fails⟩ | looks
  · rw [fails note world rfl] at ran
    cases ran
  · exact (Except.ok.inj (congrArg Prod.fst ((looks note world rfl).symm.trans ran))).symm

/-- Every connection that is read from the file, with its secret filled in, is looked at in a way that
overlooks the variable. -/
def Unread (context : Context) (fetch : Fetch (StateM World)) (disk : Disk) : Prop :=
  ∀ registry, Registry.loaded disk context.connectionsPath = .ok registry →
    ∀ connection ∈ (context.withSecrets registry).toList,
      Overlooks connectionsVariable (connection.inspect fetch context.budget)

/-- Files and web addresses are read without regard to the variable. -/
theorem unread_of_noCommand {disk : Disk} (noCommand : ∀ registry,
    Registry.loaded disk context.connectionsPath = .ok registry →
      ∀ connection ∈ registry.toList, Source.command? connection.url = none) :
    context.Unread Source.fetch disk := by
  intro registry loaded connection member
  rw [withSecrets, Registry.toList_fill] at member
  -- With its secret or without, a connection has the same location.
  obtain ⟨bare, listed, rfl⟩ := List.mem_map.mp member
  refine .inspect ?_ _
  rw [Connection.filled_url]
  exact noCommand registry loaded bare listed

end Context

/-- A connection that was found is one of the registry. -/
theorem Command.mem_of_found {registry : Registry} {label : String} {connection : Connection} {after : World}
    (ran : outcome (Command.find registry label) world = (.ok connection, after)) :
    connection ∈ registry.toList := by
  rw [outcome_find] at ran
  cases held : registry.get? label with
  | none =>
    rw [held] at ran
    cases ran
  | some connection' =>
    rw [held] at ran
    cases ran
    exact List.mem_map_of_mem (Keyed.mem_of_lookup held)

namespace SameUnset

variable {context : Context} {file : Option String} {fetch : Fetch (StateM World)}
  (presentation : Presentation)

/-- The same connections are read. -/
theorem registry : SameUnset connectionsVariable context.registry (context.unset file).registry world := by
  unfold SameUnset
  rw [Context.outcome_registry, Context.outcome_registry, Context.storeFailure_unset]
  rfl

/-- The same connections are saved, or fail to be. -/
theorem save (registry : Registry) :
    SameUnset connectionsVariable (context.save registry) ((context.unset file).save registry) world := by
  unfold SameUnset
  rw [Context.outcome_save, Context.outcome_save, Context.storeFailure_unset, Registry.save_run_eq,
    Registry.save_run_eq]
  -- Making the directory and writing the file are up to the disk alone.
  show _ = _
  simp only [Context.unset, World.without]
  cases world.disk.withParent context.connectionsPath with
  | error fault => rfl
  | ok made =>
    simp only []
    cases made.write context.connectionsPath (Text.bytes registry.write.toList) <;> rfl

/-- Sources are fetched in the same way. -/
theorem renderer (note : Option String) :
    SameUnset connectionsVariable (context.renderer (Transport.connect fetch) note)
      ((context.unset file).renderer (Transport.connect fetch) note) world := by
  -- The transport is made of other settings than the file of connections.
  have same : (context.unset file).renderer (Transport.connect fetch) note =
      context.renderer (Transport.connect fetch) note := rfl
  unfold SameUnset
  rw [same]
  rcases context.exists_renderer fetch world.disk with ⟨failure, fails⟩ | looks
  · rw [fails note world rfl, fails note (world.without connectionsVariable) rfl]
  · have here : outcome _ world = _ := looks note world rfl
    have there : outcome _ (world.without connectionsVariable) = _ := looks note _ rfl
    rw [here, there]

/-- The template is filled, and the result put out, in the same way. -/
theorem runRender (choice : TemplateChoice) (explain : Bool) (unread : context.Unread fetch world.disk) :
    SameUnset connectionsVariable
      (Command.runRender (Transport.connect fetch) context presentation choice explain)
      (Command.runRender (Transport.connect fetch) (context.unset file) presentation choice explain) world := by
  refine (template choice context.settings).bind fun text after ran => ?_
  obtain rfl : world = after := (choice.still_load ..).symm.trans (congrArg Prod.snd ran)
  refine registry.bind fun registry after ran => ?_
  obtain ⟨loaded, rfl⟩ := Context.registry_loaded ran
  refine (renderer _).bind fun renderer after ran => ?_
  obtain rfl := Context.renderer_eq ran
  have facts : Facts.ofVariables (context.unset file).environment = .ofVariables context.environment :=
    Facts.ofVariables_without _
  rw [Context.withSecrets_unset, facts]
  refine (lift (.report (unread registry loaded) text _)).bind fun report _ _ => ?_
  split
  · exact (remark presentation _).bind fun _ _ _ => putView presentation _
  · exact putView presentation _

/-- A connection is tested in the same way. -/
theorem runTest (label : String) (unread : context.Unread fetch world.disk) :
    SameUnset connectionsVariable (Command.runTest (Transport.connect fetch) context presentation label)
      (Command.runTest (Transport.connect fetch) (context.unset file) presentation label) world := by
  refine registry.bind fun registry after ran => ?_
  obtain ⟨loaded, rfl⟩ := Context.registry_loaded ran
  refine (find registry label).bind fun connection after ran => ?_
  have member : connection ∈ registry.toList := Command.mem_of_found ran
  refine (renderer none).bind fun renderer after ran => ?_
  obtain rfl := Context.renderer_eq ran
  have secrets : secretAmong (context.unset file).environment = secretAmong context.environment :=
    secretAmong_without _
  rw [secrets]
  exact (lift (unread registry loaded _ (filled_mem member))).bind fun inspection _ _ =>
    putView presentation _

/-- A command on connections does the same, whether it reads them or changes them. -/
theorem runConnections (command : ConnectionCommand) (unread : context.Unread fetch world.disk) :
    SameUnset connectionsVariable
      (Command.runConnections (Transport.connect fetch) context presentation command)
      (Command.runConnections (Transport.connect fetch) (context.unset file) presentation command) world := by
  cases command with
  | list =>
    refine registry.bind fun registry _ _ => ?_
    split
    · exact remark presentation _
    · exact (summaries _).bind fun _ _ _ => putView presentation _
  | view label =>
    refine registry.bind fun registry _ _ => ?_
    refine (find registry label).bind fun connection _ _ => ?_
    exact (summary connection).bind fun _ _ _ => putView presentation _
  | add connection =>
    refine registry.bind fun registry _ _ => ?_
    refine (changed _).bind fun registry _ _ => ?_
    exact (save registry).bind fun _ _ _ => remark presentation _
  | update label patch =>
    refine registry.bind fun registry _ _ => ?_
    refine (find registry label).bind fun connection _ _ => ?_
    refine (changed _).bind fun registry _ _ => ?_
    exact (save registry).bind fun _ _ _ => remark presentation _
  | delete label confirmed =>
    refine registry.bind fun registry _ _ => ?_
    refine (discarded registry label).bind fun _ _ _ => ?_
    cases confirmed with
    | false => rfl
    | true =>
      refine (changed _).bind fun removed _ _ => ?_
      exact (save removed.2).bind fun _ _ _ => remark presentation _
  | test label => exact runTest presentation label unread
  | setSecret label =>
    refine registry.bind fun registry _ _ => ?_
    refine (find registry label).bind fun connection _ _ => ?_
    split
    · rfl
    · rfl

/-- A place is computed and put out in the same way. -/
theorem runPlace (choice : PlaceChoice) :
    SameUnset connectionsVariable (Command.runPlace context presentation choice)
      (Command.runPlace (context.unset file) presentation choice) world := by
  have block : choice.block (context.unset file).settings = choice.block context.settings := rfl
  have surfaces : choice.surfaces (context.unset file).settings = choice.surfaces context.settings := rfl
  unfold Command.runPlace
  rw [block, surfaces]
  dsimp only
  split
  · exact putView presentation _
  · rfl

end SameUnset

end Placard
