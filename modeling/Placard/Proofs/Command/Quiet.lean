import Placard.Proofs.Command.Shown

/-! Commands that ask no source: on machines with the same files they do the same, and put out the same. -/

namespace Placard

open Variable (SameOpen)

/-- A command asks sources for their texts. -/
def Command.asks : Command → Bool
  | .render .. | .watch _ | .connections (.test _) => true
  | _ => false

/-- The files that a command line has read are at places that are kept. -/
structure Sources.Within (kept : Place → Prop) (world : World) (sources : Sources) : Prop where
  settings : SettingsSeen kept world.disk (sources.settingsPath world.environment)
  connections : ∀ settings place,
    Settings.loaded world (sources.settingsPath world.environment) = .ok settings →
    world.disk.locate (sources.connectionsPath settings (sources.settingsPath world.environment)) = .ok place →
    kept place

variable {kept : Place → Prop} {start start' world world' : World} {context context' : Context}

/-! ### Looking -/

/-- Two actions look at the variables of their machines. -/
theorem LookAlike.environment (world world' : World) :
    LookAlike (fun environment environment' => environment = world.environment ∧ environment' = world'.environment)
      Machine.environment Machine.environment world world' :=
  .of_looks rfl rfl ⟨rfl, rfl⟩

/-- From a settings file that is kept, the same settings are loaded, or the same error is found. -/
theorem LookAlike.settings (shape : world.disk.Alike kept world'.disk)
    (same : SameOpen world.environment world'.environment) {path : String}
    (within : SettingsSeen kept world.disk path) :
    LookAlike Eq (Settings.load path) (Settings.load path) world world' :=
  .of_looks (Settings.outcome_load path world) (Settings.outcome_load path world')
    (Settings.loaded_alike shape same within).symm

/-- On machines of the same shape, something stands at a path or nothing does. -/
theorem LookAlike.isThere (shape : world.disk.Alike kept world'.disk) (path : String) :
    LookAlike Eq (Machine.isThere path) (Machine.isThere path) world world' := by
  have looks (world : World) : Looks (Machine.isThere path) world ((world.disk.node? path).map Node.kind).isSome :=
    rfl
  exact .of_looks (looks world) (looks world') (congrArg Option.isSome (shape.node?_kind path)).symm

/-- An action that does not look at the machine ends in the same way everywhere. -/
theorem LookAlike.of_still {α : Type} {action : ExceptT Failure (StateM World) α} (result : Except Failure α)
    (still : ∀ world, outcome action world = (result, world)) : LookAlike Eq action action world world' := by
  refine ⟨result, result, ?_, still world, still world'⟩
  cases result with
  | error failure => exact .error failure
  | ok value => exact .ok rfl

/-- From a file that is kept, commands load the same connections. -/
theorem Context.Alike.registry (contexts : context.Alike context') (shape : world.disk.Alike kept world'.disk)
    (within : ∀ place, world.disk.locate context.connectionsPath = .ok place → kept place) :
    LookAlike Eq context.registry context'.registry world world' := by
  refine ⟨_, _, ?_, Context.outcome_registry .., Context.outcome_registry ..⟩
  rw [contexts.connectionsPath, contexts.storeFailure, Registry.loaded_alike shape within]
  cases Registry.loaded world.disk context.connectionsPath with
  | error error => exact .error _
  | ok registry => exact .ok rfl

/-- A connection is looked for in one registry. -/
theorem LookAlike.found (registry : Registry) (name : String) :
    LookAlike Eq (Command.find registry name) (Command.find registry name) world world' := by
  cases held : registry.get? name with
  | none => exact .of_still (.error (.connectionNotFound name)) fun _ => by rw [outcome_find, held]
  | some connection => exact .of_still (.ok connection) fun _ => by rw [outcome_find, held]

/-- A connection is looked for in one registry, only to see that it is there. -/
theorem LookAlike.discarded (registry : Registry) (name : String) :
    LookAlike Eq (discard (Command.find registry name)) (discard (Command.find registry name)) world world' := by
  cases held : registry.get? name with
  | none =>
    exact .of_still (.error (.connectionNotFound name)) fun _ => by rw [outcome_discard_find, held]
  | some connection => exact .of_still (.ok ()) fun _ => by rw [outcome_discard_find, held]

/-! ### Saving -/

/-- What saving a text at a path gives, and the machine after it; there may be no text to save. -/
def World.saving (path : String) (text? : Option String) (world : World) : Except StoreError Unit × World :=
  match world.disk.withParent path with
  | .error fault => (.error (.io fault), world)
  | .ok made =>
    match text? with
    | none => (.error .unwritable, { world with disk := made })
    | some text =>
      match made.write path (Text.bytes text.toList) with
      | .error fault => (.error (.io fault), { world with disk := made })
      | .ok disk => (.ok (), { world with disk := disk })

/-- Saving the same text on two machines ends alike, and leaves the machines together. -/
theorem Together.saving (together : Together (Disk.Alike kept) start start' world world') (path : String)
    (text? : Option String) :
    (world'.saving path text?).1 = (world.saving path text?).1 ∧
      Together (Disk.Alike kept) start start' (world.saving path text?).2 (world'.saving path text?).2 := by
  -- The two runs part nowhere: each step fails on both machines or on neither.
  rw [World.saving, World.saving]
  rcases (together.disk.withParent path).either with ⟨fault, here, there⟩ | ⟨made, made', shape, here, there⟩
  · rw [here, there]
    exact ⟨rfl, together⟩
  · rw [here, there]
    cases text? with
    | none => exact ⟨rfl, { together with disk := shape }⟩
    | some text =>
      -- The directory is made on both, and the same text is written there.
      rcases (shape.write path (Text.bytes text.toList)).either with
        ⟨fault, here, there⟩ | ⟨disk, disk', same, here, there⟩
      · simp only [here, there]
        exact ⟨trivial, { together with disk := shape }⟩
      · simp only [here, there]
        exact ⟨trivial, { together with disk := same }⟩

/-- Actions that save the same text go alike, whatever their errors become. -/
theorem GoAlike.saving {path : String} (text? : Option String) {action : StateM World (Except StoreError Unit)}
    (together : Together (Disk.Alike kept) start start' world world') (failure : StoreError → Failure)
    (saves : ∀ world, action.run world = world.saving path text?) :
    GoAlike (Disk.Alike kept) start start' (orFail failure action) (orFail failure action) world world' := by
  obtain ⟨same, left⟩ := together.saving path text?
  -- Turning errors into failures changes the result of saving, not the machine.
  have ran (world : World) : outcome (orFail failure action) world =
      ((world.saving path text?).1.mapError failure, (world.saving path text?).2) := by
    rw [outcome_orFail, saves]
  exact ⟨_, _, _, ran world, by rw [ran world', same], left⟩

/-- The same connections are saved alike. -/
theorem GoAlike.save (together : Together (Disk.Alike kept) start start' world world')
    (contexts : context.Alike context') (registry : Registry) :
    GoAlike (Disk.Alike kept) start start' (context.save registry) (context'.save registry) world world' := by
  rw [Context.save, Context.save, contexts.connectionsPath, contexts.storeFailure]
  exact .saving (some registry.write) together _ fun world => Registry.save_run_eq ..

/-! ### Commands on connections -/

section Connections

variable (together : Together (Disk.Alike kept) start start' world world') (contexts : context.Alike context')
  (within : ∀ place, world.disk.locate context.connectionsPath = .ok place → kept place)
  (presentation : Presentation)

include together contexts within

/-- The same connection is added alike. -/
theorem GoAlike.add (connection : Connection) :
    GoAlike (Disk.Alike kept) start start' (Command.runAdd context presentation connection)
      (Command.runAdd context' presentation connection) world world' := by
  -- Both machines load one registry, and the change to it does not look at the machine.
  refine (contexts.registry together.disk within).bind together ?_
  rintro registry _ rfl
  refine (LookAlike.of_still _ (outcome_changed _)).bind together ?_
  rintro changed _ rfl
  exact (GoAlike.save together contexts changed).bind fun _ _ together => .remark together presentation _

/-- A connection is changed alike. -/
theorem GoAlike.update (name : String) (patch : ConnectionPatch) :
    GoAlike (Disk.Alike kept) start start' (Command.runUpdate context presentation name patch)
      (Command.runUpdate context' presentation name patch) world world' := by
  refine (contexts.registry together.disk within).bind together ?_
  rintro registry _ rfl
  refine (LookAlike.found registry name).bind together ?_
  rintro connection _ rfl
  refine (LookAlike.of_still _ (outcome_changed _)).bind together ?_
  rintro changed _ rfl
  exact (GoAlike.save together contexts changed).bind fun _ _ together => .remark together presentation _

/-- A connection is deleted alike. -/
theorem GoAlike.delete (name : String) (confirmed : Bool) :
    GoAlike (Disk.Alike kept) start start' (Command.runDelete context presentation name confirmed)
      (Command.runDelete context' presentation name confirmed) world world' := by
  refine (contexts.registry together.disk within).bind together ?_
  rintro registry _ rfl
  refine (LookAlike.discarded registry name).bind together ?_
  rintro _ _ rfl
  -- Nothing is deleted that was not confirmed.
  cases confirmed with
  | false =>
    exact .throw together _
  | true =>
    refine (LookAlike.of_still _ (outcome_changed _)).bind together ?_
    rintro removed _ rfl
    exact (GoAlike.save together contexts removed.2).bind fun _ _ together => .remark together presentation _

/-- A secret is asked for alike, and nobody answers. -/
theorem GoAlike.setSecret (name : String) :
    GoAlike (Disk.Alike kept) start start' (Command.runSetSecret context name)
      (Command.runSetSecret context' name) world world' := by
  refine (contexts.registry together.disk within).bind together ?_
  rintro registry _ rfl
  refine (LookAlike.found registry name).bind together ?_
  rintro connection _ rfl
  -- Either the credentials have no room for a secret, or the question is put and finds nobody to answer it.
  split
  · exact (GoAlike.tell together _).bind fun _ _ together => .throw together _
  · exact .throw together _

end Connections

/-! ### Commands on settings -/

section Settings

variable (together : Together (Disk.Alike kept) start start' world world') {sources : Sources}
  (within : SettingsSeen kept world.disk (sources.settingsPath world.environment))
  (presentation : Presentation)

include together within

/-- Settings are shown alike. -/
theorem GoAlike.configView :
    GoAlike (Disk.Alike kept) start start' (Command.runConfigView sources presentation)
      (Command.runConfigView sources presentation) world world' := by
  refine (Context.Alike.load together.disk together.environment within).bind together ?_
  rintro context context' ⟨contexts, -⟩
  rw [contexts.settings, contexts.settingsPath]
  exact .putView together presentation _

/-- The paths of the files are shown alike. -/
theorem GoAlike.configPaths :
    GoAlike (Disk.Alike kept) start start' (Command.runConfigPaths sources presentation)
      (Command.runConfigPaths sources presentation) world world' := by
  refine (LookAlike.environment world world').bind together ?_
  rintro _ _ ⟨rfl, rfl⟩
  -- Both paths are those of the first machine; what is said of each file is whether it is there.
  rw [together.environment.settingsPath sources]
  refine (LookAlike.settings together.disk together.environment within).bind together ?_
  rintro loaded _ rfl
  refine (LookAlike.isThere together.disk _).bind together ?_
  rintro settingsThere _ rfl
  refine (LookAlike.isThere together.disk _).bind together ?_
  rintro connectionsThere _ rfl
  exact .putView together presentation _

omit within in
/-- New settings are written alike. -/
theorem GoAlike.configInit (force : Bool) :
    GoAlike (Disk.Alike kept) start start' (Command.runConfigInit sources presentation force)
      (Command.runConfigInit sources presentation force) world world' := by
  refine (LookAlike.environment world world').bind together ?_
  rintro _ _ ⟨rfl, rfl⟩
  rw [together.environment.settingsPath sources, together.environment.usualSettingsPath]
  refine (LookAlike.isThere together.disk _).bind together ?_
  rintro there _ rfl
  split
  · exact .throw together _
  · refine (GoAlike.saving _ together _ fun world => Settings.save_run_eq ..).bind fun world world' together => ?_
    refine (LookAlike.isThere together.disk _).bind together ?_
    rintro there _ rfl
    -- An empty file of connections is written too, unless one is there on both machines.
    split
    · refine (GoAlike.saving (some Registry.empty.write) together _ fun world =>
        Registry.save_run_eq ..).bind fun world world' together => ?_
      exact (GoAlike.remark together presentation _).bind fun _ _ together => .remark together presentation _
    · exact (GoAlike.remark together presentation _).bind fun _ _ together => .remark together presentation _

end Settings

/-! ### All of them -/

/-- A command that asks no source goes alike on machines with the same files. -/
theorem Invocation.goes_alike (connect : Connect (StateM World)) {invocation : Invocation}
    (together : Together (Disk.Alike kept) start start' world world')
    (within : invocation.sources.Within kept world) (quiet : invocation.command.asks = false) :
    GoAlike (Disk.Alike kept) start start' (invocation.run connect) (invocation.run connect) world world' := by
  obtain ⟨command, sources, presentation⟩ := invocation
  -- Most commands load settings first, and know from there where the connections are.
  have loads {next next' : Context → ExceptT Failure (StateM World) Unit}
      (goes : ∀ context context', context.Alike context' →
        (∀ place, world.disk.locate context.connectionsPath = .ok place → kept place) →
        GoAlike (Disk.Alike kept) start start' (next context) (next' context') world world') :
      GoAlike (Disk.Alike kept) start start' (Context.load sources >>= next) (Context.load sources >>= next')
        world world' := by
    refine (Context.Alike.load together.disk together.environment within.settings).bind together ?_
    rintro context context' ⟨contexts, settings, loaded, rfl⟩
    exact goes _ _ contexts fun place => within.connections settings place loaded
  cases command with
  | render template explain => cases quiet
  | watch choice => cases quiet
  | completions shell => exact ⟨_, _, _, rfl, rfl, together.say _⟩
  | place choice =>
    refine loads fun context context' contexts _ => ?_
    rw [Command.runPlace, Command.runPlace, contexts.settings]
    split
    · exact .putView together presentation _
    · exact .throw together _
  | config command =>
    cases command with
    | view => exact .configView together within.settings presentation
    | paths => exact .configPaths together within.settings presentation
    | init force => exact .configInit together presentation force
  | connections command =>
    refine loads fun context context' contexts leads => ?_
    -- Listing and showing ask for less than the same registry: that it is the same once veiled.
    have registries : LookAlike SameVeiled context.registry context'.registry world world' := by
      obtain ⟨_, _, ends, here, there⟩ := contexts.registry together.disk leads
      refine ⟨_, _, ?_, here, there⟩
      cases ends with
      | error failure => exact .error failure
      | ok same => exact .ok (congrArg Registry.veiled same.symm)
    cases command with
    | list => exact .list together.disk registries together presentation
    | view name => exact .view together.disk registries together presentation name
    | add connection => exact .add together contexts leads presentation connection
    | update name patch => exact .update together contexts leads presentation name patch
    | delete name confirmed => exact .delete together contexts leads presentation name confirmed
    | test name => cases quiet
    | setSecret name => exact .setSecret together contexts leads name

end Placard
