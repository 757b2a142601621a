import Placard.Proofs.Command.Flagged

/-! The file of connections, chosen by its variable or by the option: where the settings that the variable
gives as well can be loaded, both choices come to the same. -/

namespace Placard

/-! ### The file that settings name -/

namespace Given

/-- A path that may be absent is read from the upper of two values, whatever it is put over. -/
theorem optional_toPath_overlaid (lower upper : Given) :
    optional toPath (lower.overlaid upper) = optional toPath upper := by
  -- Only tables are joined, and the joined one is as little a path as the upper one.
  cases upper with
  | scalar layer value => rw [overlaid_scalar]
  | list layer items =>
    rw [overlaid]
    rintro _ _ ⟨⟩
  | table layer items =>
    cases lower <;> simp only [overlaid, optional, toPath, mismatch, refuse, describe, Given.layer]

/-- Settings are read from the values of their keys; beside the file of connections, the same values make the
same settings. -/
theorem toSettings_connectionsFile {layer layer' : Layer} {items items' : List (String × Given)}
    {named named' : Option (Option String)}
    (same : ∀ key, key ≠ "connections_file" → items'.lookup key = items.lookup key)
    (reads : (Fields.keyed items).get? 4 "connections_file" (optional toPath) = .ok named)
    (reads' : (Fields.keyed items').get? 4 "connections_file" (optional toPath) = .ok named') :
    (table layer' items').toSettings = (table layer items).toSettings.map fun settings =>
      { settings with connectionsFile := named'.join } := by
  have other {α : Type} (place : Nat) {key : String} (different : key ≠ "connections_file")
      (read : Given → Except GivenProblem α) :
      (Fields.keyed items').get? place key read = (Fields.keyed items).get? place key read :=
    Fields.get?_congr place (same key different) read
  simp only [toSettings, fields, ok_bind, reads, reads', other _ (show "timeout_secs" ≠ _ by decide),
    other _ (show "http" ≠ _ by decide), other _ (show "note" ≠ _ by decide),
    other _ (show "placement" ≠ _ by decide), other _ (show "refresh_interval_minutes" ≠ _ by decide),
    other _ (show "target" ≠ _ by decide), other _ (show "template" ≠ _ by decide)]
  show _ = (fun settings : Settings => _) <$> _
  simp only [map_bind, map_pure]

end Given

namespace Settings

open Given (joined)

/-- The file of connections that settings name: the one that variables give, or else the settings file; what is
given may be no path. -/
def namedFile (environment : List (String × String)) (file : Given) : Except GivenProblem (Option String) :=
  (((Variable.givenUnder "connections_file" environment).or (file.at? ["connections_file"])).map
    (Given.optional Given.toPath)).getD (.ok none)

/-- What a settings file gives is a table in which no key comes twice. -/
theorem givenFile_table {disk : Disk} {path : String} {file : Given} (given : givenFile disk path = .ok file) :
    ∃ layer items, file = .table layer items ∧ (items.map (·.1)).Nodup := by
  unfold givenFile at given
  split at given
  · cases given
    exact ⟨_, [], rfl, List.nodup_nil⟩
  · dsimp only at given
    split at given
    · cases given
    · split at given
      · cases given
      · split at given
        · rename_i whole parsed
          cases given
          obtain ⟨items, rfl, apart⟩ := Toml.parse_table parsed
          exact ⟨_, _, Given.ofToml.eq_def _ _, Given.nodup_ofTomlItems _ apart⟩
        · cases given

/-- What is given under the key of the file of connections, in all layers together, is read as what settings
name. -/
theorem get?_namedFile {layer : Layer} {file items : List (String × Given)}
    {environment : List (String × String)}
    (under : items.lookup "connections_file" = joined (joined (usualUnder "connections_file")
      (file.lookup "connections_file")) (Variable.givenUnder "connections_file" environment)) :
    (Given.Fields.keyed items).get? 4 "connections_file" (Given.optional Given.toPath) =
      Given.under "connections_file" ((namedFile environment (.table layer file)).map some) := by
  -- Nothing is named usually, and whatever is given is put over that.
  have usual_ : usualUnder "connections_file" = some (.scalar .usual .nothing) := rfl
  have reads : (items.lookup "connections_file").map (Given.optional Given.toPath) =
      some (namedFile environment (.table layer file)) := by
    have at_ : (Given.table layer file).at? ["connections_file"] = file.lookup "connections_file" := by
      simp [Given.at?]
    rw [under, Given.map_joined Given.optional_toPath_overlaid,
      Given.map_joined Given.optional_toPath_overlaid, usual_, namedFile, at_]
    cases Variable.givenUnder "connections_file" environment <;> cases file.lookup "connections_file" <;> rfl
  obtain ⟨value, found, read⟩ := Option.map_eq_some_iff.mp reads
  rw [Given.Fields.get?, found, ← read]

/-- Settings cannot be loaded where what is given for the file of connections is no path. -/
theorem loaded_unnamed {world : World} {path : String} {file : Given} {problem : GivenProblem}
    (given : givenFile world.disk path = .ok file)
    (named : namedFile world.environment file = .error problem) :
    loaded world path = .error (.unloadable (.badValue
      { problem with path := "connections_file" :: problem.path })) := by
  obtain ⟨layer, items, rfl, apart⟩ := givenFile_table given
  obtain ⟨made, settings, under⟩ := ofLayers_keys layer apart world.environment
  have reads := @get?_namedFile layer _ _ _ (under "connections_file")
  rw [named] at reads
  have refused : (Given.table .environment made).toSettings =
      .error { problem with path := "connections_file" :: problem.path } := by
    rw [Given.toSettings, Given.fields, ok_bind]
    dsimp only
    rw [reads]
    rfl
  rw [loaded, given]
  dsimp only
  rw [settings, refused]
  rfl

/-- The variable gives nothing but the file of connections. -/
theorem filter_without (environment : List (String × String)) :
    (Variable.without connectionsVariable environment).filter (!Variable.leadsTo "connections_file" ·) =
      environment.filter (!Variable.leadsTo "connections_file" ·) := by
  rw [Variable.without, List.filter_filter]
  refine List.filter_congr fun entry _ => ?_
  obtain ⟨name, value⟩ := entry
  by_cases here : name = connectionsVariable
  · have named : Variable.keys? connectionsVariable = some ["connections_file"] := by rfl
    simp [Variable.leadsTo, here, named]
  · simp [here]

/-- Where settings name a file, or none, with the variable and without it, both load the same otherwise. -/
theorem loaded_without {world : World} {path : String}
    (legible : ∀ file, givenFile world.disk path = .ok file →
      (∃ named, namedFile world.environment file = .ok named) ∧
      ∃ named, namedFile (Variable.without connectionsVariable world.environment) file = .ok named) :
    ∃ named, loaded (world.without connectionsVariable) path =
      (loaded world path).map fun settings => { settings with connectionsFile := named } := by
  have disk : (world.without connectionsVariable).disk = world.disk := rfl
  cases given : givenFile world.disk path with
  | error error =>
    refine ⟨none, ?_⟩
    rw [loaded, loaded, disk, given]
    rfl
  | ok file =>
    obtain ⟨⟨named, here⟩, named', there⟩ := legible file given
    obtain ⟨layer, items, rfl, apart⟩ := givenFile_table given
    obtain ⟨made, settings, under⟩ := ofLayers_keys layer apart world.environment
    obtain ⟨made', settings', below⟩ := ofLayers_keys layer apart
      (Variable.without connectionsVariable world.environment)
    have reads := @get?_namedFile layer _ _ _ (under "connections_file")
    have reads' := @get?_namedFile layer _ _ _ (below "connections_file")
    rw [here] at reads
    rw [there] at reads'
    have others (key : String) (different : key ≠ "connections_file") : made'.lookup key = made.lookup key := by
      rw [under, below, Variable.givenUnder_congr different (filter_without world.environment)]
    refine ⟨named', ?_⟩
    rw [loaded, loaded, disk, given]
    dsimp only
    have unset : (world.without connectionsVariable).environment =
        Variable.without connectionsVariable world.environment := rfl
    rw [unset, settings, settings', Given.toSettings_connectionsFile others reads reads']
    cases (Given.table .environment made).toSettings <;> rfl

end Settings

/-! ### Commands -/

/-- Settings name a file of connections, or none, with the variable for it and without it. -/
def World.Legible (world : World) (settingsPath : String) : Prop :=
  ∀ file, Settings.givenFile world.disk settingsPath = .ok file →
    (∃ named, Settings.namedFile world.environment file = .ok named) ∧
    ∃ named, Settings.namedFile (Variable.without connectionsVariable world.environment) file = .ok named

section Loading

variable {world : World} {sources : Sources} {path : String}

/-- The settings file is looked for at the same path. -/
theorem Sources.settingsPath_without (sources : Sources) (environment : List (String × String)) :
    sources.settingsPath (Variable.without connectionsVariable environment) = sources.settingsPath environment := by
  rw [settingsPath, settingsPath, usualSettingsPath_without]

/-- With the file named by the command line, commands work on the same without the variable. -/
theorem Context.load_unset (chosen : sources.connections = some path)
    (legible : world.Legible (sources.settingsPath world.environment)) :
    ∃ file, outcome (load sources) (world.without connectionsVariable) =
      ((outcome (load sources) world).1.map (·.unset file), world.without connectionsVariable) := by
  obtain ⟨named, loaded⟩ := Settings.loaded_without legible
  have unset : (world.without connectionsVariable).environment =
      Variable.without connectionsVariable world.environment := rfl
  have made (settings : Settings) :
      sources.context (Variable.without connectionsVariable world.environment)
        { settings with connectionsFile := named } = (sources.context world.environment settings).unset named := by
    simp only [Sources.context, Context.unset, Sources.settingsPath_without, Sources.connectionsPath, chosen]
    rfl
  refine ⟨named, ?_⟩
  rw [outcome_load, outcome_load, unset, Sources.settingsPath_without, usualSettingsPath_without, loaded]
  cases Settings.loaded world (sources.settingsPath world.environment) with
  | error error => rfl
  | ok settings => exact congrArg (fun context => (Except.ok context, _)) (made settings)

/-- What follows on loading goes alike where it does for what is loaded. -/
theorem SameUnset.load {next : Context → ExceptT Failure (StateM World) Unit}
    (chosen : sources.connections = some path)
    (legible : world.Legible (sources.settingsPath world.environment))
    (goes : ∀ context file, Looks (Context.load sources) world context →
      SameUnset connectionsVariable (next context) (next (context.unset file)) world) :
    SameUnset connectionsVariable (Context.load sources >>= next) (Context.load sources >>= next) world := by
  obtain ⟨file, there⟩ := Context.load_unset chosen legible
  have still : (outcome (Context.load sources) world).2 = world := congrArg Prod.snd (Context.outcome_load ..)
  unfold SameUnset
  rw [outcome_bind, outcome_bind, there]
  rcases here : outcome (Context.load sources) world with ⟨result, after⟩
  obtain rfl : after = world := by rw [here] at still; exact still
  cases result with
  | error failure => rfl
  | ok context => exact goes context file here

end Loading

/-- A command loads the settings and puts out what it makes with them, once. -/
def Command.isSettled : Command → Bool
  | .render .. | .connections _ | .place _ => true
  | _ => false

/-- A command that names its file of connections does the same with the variable for it unset. -/
theorem Invocation.run_unset {fetch : Fetch (StateM World)} {world : World} {invocation : Invocation} {path : String}
    (settled : invocation.command.isSettled = true) (chosen : invocation.sources.connections = some path)
    (legible : world.Legible (invocation.sources.settingsPath world.environment))
    (unread : ∀ context, Looks (Context.load invocation.sources) world context → context.Unread fetch world.disk) :
    SameUnset connectionsVariable (invocation.run (Transport.connect fetch))
      (invocation.run (Transport.connect fetch)) world := by
  obtain ⟨command, sources, presentation⟩ := invocation
  cases command with
  | render template explain =>
    exact .load chosen legible fun context file found => .runRender presentation template explain (unread _ found)
  | connections command =>
    exact .load chosen legible fun context file found => .runConnections presentation command (unread _ found)
  | place choice => exact .load chosen legible fun context file _ => .runPlace presentation choice
  | watch choice => cases settled
  | config command => cases settled
  | completions shell => cases settled

/-- Two results differ at most in what they say of the file of connections. -/
structure View.SameButFile (view view' : View) : Prop where
  json : ∃ before after file file', view.json = .object (before ++ ("connections_file", file) :: after) ∧
    view'.json = .object (before ++ ("connections_file", file') :: after)
  table : ∃ before after file file', view.table = before ++ Settings.lineOf? "connections_file" file ++ after ∧
    view'.table = before ++ Settings.lineOf? "connections_file" file' ++ after
  plain : view'.plain = view.plain

/-- Of settings that can be written, another file of connections changes the line for it and no other. -/
theorem Settings.exists_write (settings : Settings) (writable : settings.writable = true) :
    ∃ before after, ∀ named : Option String, ({ settings with connectionsFile := named } : Settings).write? =
      some (before ++ lineOf? "connections_file" named ++ after) := by
  refine ⟨Toml.line "timeout_secs" (toString settings.timeoutSeconds) ++
    Toml.line "refresh_interval_minutes" (toString settings.refreshMinutes) ++
    Toml.line "template" (Toml.writeText settings.template) ++ lineOf? "note" settings.note, ?_⟩
  -- What stands behind the line is what the writer puts there.
  apply Exists.intro
  intro named
  have writable' : ({ settings with connectionsFile := named } : Settings).writable = true := writable
  rw [write?, if_pos writable']
  simp only [String.append_assoc]
  rfl

/-- Settings with another file of connections are shown with another line for it, and the same otherwise. -/
theorem Settings.view_connectionsFile (settings : Settings) (named : Option String) (path : String) :
    (settings.view path).SameButFile (({ settings with connectionsFile := named } : Settings).view path) where
  json := ⟨[_, _, _, _], [_, _, _], _, _, rfl, rfl⟩
  table := by
    cases writable : settings.writable with
    | true =>
      obtain ⟨before, after, written⟩ := settings.exists_write writable
      refine ⟨before, after, settings.connectionsFile, named, ?_, ?_⟩
      · rw [view, written settings.connectionsFile]
        rfl
      · rw [view, written named]
        rfl
    | false =>
      -- What cannot be written is shown as a remark, which says nothing of the file.
      have unwritten (named : Option String) :
          ({ settings with connectionsFile := named } : Settings).write? = none := by
        have writable' : ¬({ settings with connectionsFile := named } : Settings).writable = true := by
          rw [Bool.not_eq_true]
          exact writable
        rw [write?, if_neg writable']
      refine ⟨"# unrenderable: " ++ StoreError.unwritableReason, "", none, none, ?_, ?_⟩
      · rw [view, unwritten settings.connectionsFile]
        rfl
      · rw [view, unwritten named]
        rfl
  plain := rfl

/-- Showing the settings loads them and puts them out. -/
theorem Command.outcome_configView (sources : Sources) (presentation : Presentation) (world : World) :
    outcome (runConfigView sources presentation) world =
      match (outcome (Context.load sources) world).1 with
      | .error failure => (.error failure, world)
      | .ok context => (.ok (),
          presentation.shown ((context.settings.view context.settingsPath).text presentation.format) world) := by
  rw [runConfigView, outcome_bind, Context.outcome_load]
  cases Settings.loaded world (sources.settingsPath world.environment) with
  | error error => rfl
  | ok settings => exact Presentation.outcome_putView ..

/-! ### The program -/

/-- A start of the program with the variable for the file of connections, and a command line for the same start
with the option instead. -/
structure Chosen (world : World) (path : String) (words flagged : List String) (invocation : Invocation) : Prop where
  given : world.environment.lookup connectionsVariable = some path
  flagged : Flagged world.environment path words flagged
  read : Invocation.read world.environment words = .ok invocation

/-- A command line that is understood runs its command, and tells how that ended. -/
theorem runProgram_read (connect : Connect (StateM World)) {words : List String} {world : World}
    {invocation : Invocation} (read : Invocation.read world.environment words = .ok invocation) :
    (runProgram connect words).run world =
      ((Invocation.ending (outcome (invocation.run connect) world).1).exitCode,
        (Invocation.ending (outcome (invocation.run connect) world).1).closed
          (outcome (invocation.run connect) world).2) := by
  rw [runProgram_run, runWords_run, read]

/-- Settings that name no file of connections, where they are to, end every command that needs them. -/
theorem Invocation.run_unnamed {connect : Connect (StateM World)} {world : World} {invocation : Invocation}
    {file : Given} {problem : GivenProblem}
    (needs : invocation.command.isSettled = true ∨ invocation.command = .config .view)
    (given : Settings.givenFile world.disk (invocation.sources.settingsPath world.environment) = .ok file)
    (named : Settings.namedFile world.environment file = .error problem) :
    outcome (invocation.run connect) world = (.error (.ofStore (usualSettingsPath world.environment)
      (.unloadable (.badValue { problem with path := "connections_file" :: problem.path }))), world) := by
  have loads : outcome (Context.load invocation.sources) world = (.error (.ofStore
      (usualSettingsPath world.environment)
      (.unloadable (.badValue { problem with path := "connections_file" :: problem.path }))), world) := by
    rw [Context.outcome_load, Settings.loaded_unnamed given named]
    rfl
  obtain ⟨command, sources, presentation⟩ := invocation
  rcases needs with settled | rfl
  · cases command with
    | render template explain => rw [run, outcome_bind, loads]
    | connections command => rw [run, outcome_bind, loads]
    | place choice => rw [run, outcome_bind, loads]
    | watch choice => cases settled
    | config command => cases settled
    | completions shell => cases settled
  · show outcome (Command.runConfigView sources presentation) world = _
    rw [Command.outcome_configView, loads]

namespace Chosen

variable {fetch : Fetch (StateM World)} {world : World} {path : String} {words flagged : List String}
  {invocation : Invocation}

/-- Both command lines ask for the same, with the file of the variable. -/
theorem reads (chosen : Chosen world path words flagged invocation) :
    Invocation.read (Variable.without connectionsVariable world.environment) flagged = .ok invocation ∧
      invocation.sources.connections = some path := by
  obtain ⟨same, named⟩ := chosen.flagged.read chosen.given
  exact ⟨same.trans chosen.read, named invocation chosen.read⟩

/-- A command that does the same without the variable makes the program do the same. -/
theorem program (chosen : Chosen world path words flagged invocation) {connect : Connect (StateM World)}
    (same : SameUnset connectionsVariable (invocation.run connect) (invocation.run connect) world) :
    (runProgram connect flagged).run (world.without connectionsVariable) =
      (((runProgram connect words).run world).1,
        ((runProgram connect words).run world).2.without connectionsVariable) := by
  have there : outcome (invocation.run connect) (world.without connectionsVariable) = _ := same
  rw [runProgram_read connect chosen.read, runProgram_read connect chosen.reads.1, there]
  rfl

/-- The settings are shown with another line for the file of connections, if they can be loaded. -/
theorem configView (chosen : Chosen world path words flagged invocation)
    (legible : world.Legible (invocation.sources.settingsPath world.environment))
    (view : invocation.command = .config .view) {connect : Connect (StateM World)} :
    (runProgram connect flagged).run (world.without connectionsVariable) =
      (((runProgram connect words).run world).1,
        ((runProgram connect words).run world).2.without connectionsVariable) ∨
    ∃ view view' : View, view.SameButFile view' ∧
      (runProgram connect words).run world = (0, invocation.presentation.shown
        (view.text invocation.presentation.format) world) ∧
      (runProgram connect flagged).run (world.without connectionsVariable) = (0, invocation.presentation.shown
        (view'.text invocation.presentation.format) (world.without connectionsVariable)) := by
  obtain ⟨same, named⟩ := chosen.reads
  obtain ⟨file, there⟩ := Context.load_unset named legible
  obtain ⟨command, sources, presentation⟩ := invocation
  dsimp only at view
  subst view
  have runs (start : World) : outcome (Invocation.run connect ⟨.config .view, sources, presentation⟩) start =
      outcome (Command.runConfigView sources presentation) start := rfl
  rw [runProgram_read connect chosen.read, runProgram_read connect same, runs, runs, Command.outcome_configView,
    Command.outcome_configView, there]
  -- Either the settings cannot be loaded in both cases, or they are shown in both.
  cases (outcome (Context.load sources) world).1 with
  | error failure => exact .inl rfl
  | ok context =>
    refine .inr ⟨_, _, Settings.view_connectionsFile context.settings file context.settingsPath, ?_, ?_⟩
    · exact congrArg (Prod.mk 0) (Ending.closed_done _)
    · exact congrArg (Prod.mk 0) (Ending.closed_done _)

end Chosen

/-- The variable for the file of connections and the option agree, wherever the value of the variable can be
loaded as a setting too.

Both command lines ask for the same, with the same file. Where the settings name a file or none in both cases,
every command ends with the same exit code, puts out the same and leaves the same files; only the line for the
file differs where settings are shown. A value that is no path as a setting, such as a number, ends every
command that needs settings before it does anything. -/
theorem variable_agrees_with_option (fetch : Fetch (StateM World)) (world : World) :
    (∀ (path : String) (words flagged : List String) (invocation : Invocation),
        Chosen world path words flagged invocation →
      Invocation.read (Variable.without connectionsVariable world.environment) flagged = .ok invocation ∧
      (∀ context, Looks (Context.load invocation.sources) world context → context.connectionsPath = path) ∧
      (world.Legible (invocation.sources.settingsPath world.environment) →
        let run := (runProgram (Transport.connect fetch) words).run world
        let run' := (runProgram (Transport.connect fetch) flagged).run (world.without connectionsVariable)
        (invocation.command.isSettled = true →
          (∀ context, Looks (Context.load invocation.sources) world context → context.Unread fetch world.disk) →
          run' = (run.1, run.2.without connectionsVariable)) ∧
        (invocation.command = .config .view → run' = (run.1, run.2.without connectionsVariable) ∨
          ∃ view view' : View, view.SameButFile view' ∧
            run = (0, invocation.presentation.shown (view.text invocation.presentation.format) world) ∧
            run' = (0, invocation.presentation.shown (view'.text invocation.presentation.format)
              (world.without connectionsVariable))))) ∧
    (∀ (connect : Connect (StateM World)) (words : List String) (invocation : Invocation) (file : Given)
        (problem : GivenProblem), Invocation.read world.environment words = .ok invocation →
      (invocation.command.isSettled = true ∨ invocation.command = .config .view) →
      Settings.givenFile world.disk (invocation.sources.settingsPath world.environment) = .ok file →
      Settings.namedFile world.environment file = .error problem →
      (runProgram connect words).run world = (1, (Ending.failed (.ofStore (usualSettingsPath world.environment)
        (.unloadable (.badValue { problem with path := "connections_file" :: problem.path })))).closed world)) ∧
    ∀ (path : String) (flag words : List String) (levels : List (Level × List (Argument × String))),
        ConnectionsFlag path flag → path ≠ "" → Command.readWords world.environment words = .ok levels →
      (∀ level given, (level, given) ∈ levels → Command.textOf? given .connections = none) →
      Flagged world.environment path words (flag ++ words) := by
  refine ⟨?_, ?_, ?_⟩
  · intro path words flagged invocation chosen
    obtain ⟨same, named⟩ := chosen.reads
    refine ⟨same, fun context found => ?_, fun legible => ⟨fun settled unread => ?_, fun view => ?_⟩⟩
    · obtain ⟨settings, -, rfl⟩ := Context.looks_load_iff.mp found
      simp only [Sources.context, Sources.connectionsPath, named, Option.getD_some]
    · exact chosen.program (Invocation.run_unset settled named legible unread)
    · exact chosen.configView legible view
  · intro connect words invocation file problem read needs given named
    rw [runProgram_read connect read, Invocation.run_unnamed needs given named]
    rfl
  · intro path flag words levels flags some_ read silent
    refine flags.flagged some_ read fun pair member => ?_
    exact Keyed.lookup_eq_none_iff_any.mp (silent pair.1 pair.2 member)

/-! ### A machine without files -/

open Settings (bareWorld)

/-- The program, started with a command line on a machine. -/
def started (words : List String) (world : World) : Nat × World :=
  (runProgram (Transport.connect Source.fetch) words : StateM World Nat).run world

/-- What such a command line asks for, with the file of connections. -/
def startedWith (path : String) (command : Command) : Invocation :=
  ⟨command, { settings := some "config.toml", connections := some path }, {}⟩

/-- The name of a file can be a setting. -/
theorem legible_bareWorld : (bareWorld connectionsVariable "list").Legible "config.toml" := by
  intro file given
  cases (Settings.givenFile_bareWorld _ _).symm.trans given
  exact ⟨⟨some "list", rfl⟩, none, rfl⟩

/-- The variable names a file that is not there, and so does the option without it. -/
theorem variable_agrees_with_option_missing :
    started ["--connections=list", "--config", "config.toml", "connections", "list"]
        ((bareWorld connectionsVariable "list").without connectionsVariable) =
      ((started ["--config", "config.toml", "connections", "list"] (bareWorld connectionsVariable "list")).1,
        (started ["--config", "config.toml", "connections", "list"] (bareWorld connectionsVariable "list")).2.without
          connectionsVariable) ∧
    (started ["--connections=list", "--config", "config.toml", "config", "show"]
        ((bareWorld connectionsVariable "list").without connectionsVariable)).1 =
      (started ["--config", "config.toml", "config", "show"] (bareWorld connectionsVariable "list")).1 ∧
    (started ["--config", "config.toml", "connections", "list"] (bareWorld connectionsVariable "42")).1 = 1 := by
  obtain ⟨agree, -, flags⟩ := variable_agrees_with_option Source.fetch (bareWorld connectionsVariable "list")
  obtain ⟨-, refuses, -⟩ := variable_agrees_with_option Source.fetch (bareWorld connectionsVariable "42")
  have chosen {words : List String} {levels : List (Level × List (Argument × String))} {asked : Command}
      (read : Command.readWords (bareWorld connectionsVariable "list").environment words = .ok levels)
      (silent : ∀ pair ∈ levels, Command.textOf? pair.2 .connections = none)
      (asks : Invocation.read (bareWorld connectionsVariable "list").environment words =
        .ok (startedWith "list" asked)) :
      Chosen (bareWorld connectionsVariable "list") "list" words ("--connections=list" :: words)
        (startedWith "list" asked) :=
    ⟨rfl, flags _ ["--connections=list"] _ _ .attached (by decide) read fun level given => silent (level, given), asks⟩
  have listing := @chosen ["--config", "config.toml", "connections", "list"]
    [(.top, [(.settings, "config.toml")]), (.connections, []), (.connectionList, [])]
    (.connections .list) rfl (by decide) rfl
  have view := @chosen ["--config", "config.toml", "config", "show"]
    [(.top, [(.settings, "config.toml")]), (.config, []), (.configShow, [])]
    (.config .view) rfl (by decide) rfl
  have refused := refuses (Transport.connect Source.fetch)
    ["--config", "config.toml", "connections", "list"] (startedWith "42" (.connections .list)) (.table .usual [])
    ⟨.mismatch "unsigned int `42`" "path string", [], .environment⟩ rfl (.inl rfl)
    (Settings.givenFile_bareWorld connectionsVariable "42") rfl
  refine ⟨?_, ?_, ?_⟩
  · obtain ⟨-, names, same⟩ := agree _ _ _ _ listing
    refine (same legible_bareWorld).1 rfl fun context found => ?_
    -- The registry is empty, as there is no file of that name.
    refine Context.unread_of_noCommand fun registry loaded connection member => ?_
    rw [names context found] at loaded
    have missing : Registry.loaded (bareWorld connectionsVariable "list").disk "list" = .ok .empty := rfl
    cases missing.symm.trans loaded
    cases member
  · obtain ⟨-, -, same⟩ := agree _ _ _ _ view
    obtain same | ⟨_, _, -, shown, shown'⟩ := (same legible_bareWorld).2 rfl
    · rw [started, started, same]
    · rw [started, started, shown, shown']
  · rw [started, refused]

/-- Listing no connections makes a remark. -/
theorem Invocation.run_list_empty {connect : Connect (StateM World)} {sources : Sources}
    {presentation : Presentation} {context : Context} {world : World}
    (loads : Looks (Context.load sources) world context)
    (empty : Registry.loaded world.disk context.connectionsPath = .ok .empty)
    (table : presentation.format = .table) :
    outcome (run connect ⟨.connections .list, sources, presentation⟩) world = (.ok (), presentation.noted
      "No connections. Add one with: wallinfo connections add <name> --url <location>" world) := by
  have loaded : outcome (Context.load sources) world = (.ok context, world) := loads
  rw [run, outcome_bind, loaded]
  show outcome (Command.runList context presentation) world = _
  rw [Command.runList, outcome_bind, Context.outcome_registry, empty]
  simp only [table]
  exact Presentation.outcome_remark ..

/-- A number in the variable ends the program with a complaint, while the option takes it for the name of a
file. -/
theorem variable_refuses_number :
    (started ["--config", "config.toml", "connections", "list"] (bareWorld connectionsVariable "42")).1 = 1 ∧
    (started ["--connections=42", "--config", "config.toml", "connections", "list"]
      ((bareWorld connectionsVariable "42").without connectionsVariable)).1 = 0 := by
  constructor
  · have asks : Invocation.read (bareWorld connectionsVariable "42").environment
        ["--config", "config.toml", "connections", "list"] =
          .ok (startedWith "42" (.connections .list)) := by rfl
    have named : Settings.namedFile (bareWorld connectionsVariable "42").environment (.table .usual []) =
        .error ⟨.mismatch "unsigned int `42`" "path string", [], .environment⟩ := by rfl
    have ended := @Invocation.run_unnamed (Transport.connect Source.fetch) _
      (startedWith "42" (.connections .list)) _ _ (.inl rfl) (Settings.givenFile_bareWorld _ _) named
    rw [started, runProgram_read _ asks, ended]
    rfl
  · let bare := (bareWorld connectionsVariable "42").without connectionsVariable
    have asks : Invocation.read bare.environment
        ["--connections=42", "--config", "config.toml", "connections", "list"] =
          .ok (startedWith "42" (.connections .list)) := by rfl
    have given : Settings.givenFile bare.disk "config.toml" = .ok (.table .usual []) :=
      Settings.givenFile_bareWorld connectionsVariable "42"
    have loaded : Settings.loaded bare "config.toml" = .ok Settings.usual := by
      simp only [Settings.loaded, given]
      rfl
    have loads : Looks (Context.load (startedWith "42" (.connections .list)).sources) bare
        ((startedWith "42" (.connections .list)).sources.context [] Settings.usual) :=
      Context.looks_load_iff.mpr ⟨Settings.usual, loaded, rfl⟩
    have ended : outcome ((startedWith "42" (.connections .list)).run (Transport.connect Source.fetch)) bare = _ :=
      Invocation.run_list_empty loads rfl rfl
    rw [started, runProgram_read _ asks, ended]
    rfl

end Placard
