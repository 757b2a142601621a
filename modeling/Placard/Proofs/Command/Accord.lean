import Placard.Command.Run
import Placard.Proofs.Refresh.Accord
import Placard.Proofs.Settings.Accord

/-! Commands do the same on machines in accord, in whatever way each of them shows its results. -/

namespace Placard

namespace Accord

variable {m m' : Type → Type} [Monad m] [Monad m'] [LawfulMonad m] [LawfulMonad m'] [Machine m]
  [Machine m'] {shown shown' : Presentation} (accord : Accord m m' shown shown') {α β : Type}

/-! ### Actions that may fail -/

/-- Actions of commands, which may fail. -/
abbrev failing : Accord (ExceptT Failure m) (ExceptT Failure m') shown shown' :=
  accord.except Failure

/-- Actions that end alike fail with the same failures. -/
theorem orFail {ε : Type} {related : α → β → Prop} {action : m (Except ε α)} {action' : m' (Except ε β)}
    (ends : accord.agree (EndAlike related) action action') (failure : ε → Failure) :
    accord.failing.agree related (Placard.orFail failure action) (Placard.orFail failure action') := by
  refine accord.bind ends fun result result' same => accord.pure ?_
  cases same with
  | error fault => exact .error (failure fault)
  | ok same => exact .ok same

/-- Actions that give the same result fail with the same failures. -/
theorem orFailSame {ε : Type} {action : m (Except ε α)} {action' : m' (Except ε α)}
    (agrees : accord.agree Eq action action') (failure : ε → Failure) :
    accord.failing.agree Eq (Placard.orFail failure action) (Placard.orFail failure action') :=
  accord.orFail (accord.weaken agrees fun result _ same => same ▸ .refl result) failure

/-! ### What commands work on -/

/-- Commands work on the same settings. -/
theorem loadContext (sources : Sources) :
    accord.failing.agree Eq (Context.load sources) (Context.load sources) := by
  refine accord.failing.next accord.failing.environment fun environment => ?_
  exact accord.failing.next (accord.orFailSame (accord.loadSettings _) _) fun settings =>
    accord.failing.give _

variable (context : Context)

/-- Commands work on the same connections. -/
theorem registry : accord.failing.agree Eq context.registry context.registry :=
  accord.orFailSame (accord.loadRegistry _) _

/-- Commands save the same connections, or fail to. -/
theorem save (registry : Registry) :
    accord.failing.agree Eq (context.save registry) (context.save registry) :=
  accord.orFailSame (accord.saveRegistry registry _) _

/-- The template is the same on both machines. -/
theorem template (choice : TemplateChoice) (settings : Settings) :
    accord.failing.agree Eq (choice.load settings) (choice.load settings) := by
  obtain ⟨text, file, note⟩ := choice
  cases text with
  | some text => exact accord.failing.give text
  | none =>
    cases file with
    | none => exact accord.failing.give _
    | some path =>
      exact accord.failing.next (accord.orFailSame (accord.readText path) _) fun text =>
        accord.failing.give _

/-! ### Commands that ask no source -/

/-- A connection is found on both machines, or on neither. -/
theorem find (registry : Registry) (name : String) :
    accord.failing.agree Eq (Command.find registry name) (Command.find registry name) := by
  unfold Command.find
  cases registry.get? name with
  | none => exact accord.fail _
  | some connection => exact accord.failing.give connection

/-- A registry is changed on both machines, or the change is refused on both. -/
theorem changed (result : Except RegistryError α) :
    accord.failing.agree Eq (Command.changed result) (Command.changed result) := by
  cases result with
  | error error => exact accord.fail _
  | ok value => exact accord.failing.give value

omit [LawfulMonad m] [LawfulMonad m'] in
/-- The summary of a connection is the same on both machines. -/
theorem summarize (connection : Connection) :
    accord.agree Eq (Command.summarize connection) (Command.summarize connection) :=
  accord.next (accord.source connection) fun _ => accord.give _

/-- Connections are listed alike; an empty list is left out where there is only a remark to make on it. -/
theorem runList :
    accord.failing.agree Eq (Command.runList context shown) (Command.runList context shown') := by
  refine accord.failing.next (accord.registry context) fun registry => ?_
  cases connections : registry.toList with
  | nil =>
    -- No source is looked for, so all that is left is showing something.
    have shows {n : Type → Type} [Monad n] [LawfulMonad n] [Machine n] (presentation : Presentation)
        (text : String) : Shows presentation
          (if ([] : List Connection).isEmpty && presentation.format == .table then presentation.remark text
          else do
            let summaries ← ([] : List Connection).mapM Command.summarize
            presentation.putView (ConnectionSummary.listView summaries) : n Unit) := by
      split
      · exact .remark presentation text
      · rw [List.mapM_nil, pure_bind]
        exact .put presentation _
    exact accord.failing.shows (shows shown _) (shows shown' _)
  | cons connection others =>
    exact accord.failing.next (accord.failing.mapM (accord.failing.summarize) _) fun summaries =>
      accord.failing.put _ _

/-- One connection is shown alike. -/
theorem runView (name : String) :
    accord.failing.agree Eq (Command.runView context shown name) (Command.runView context shown' name) := by
  refine accord.failing.next (accord.registry context) fun registry => ?_
  refine accord.failing.next (accord.find registry name) fun connection => ?_
  exact accord.failing.next (accord.failing.summarize connection) fun summary => accord.failing.put _ _

/-- A connection is added alike. -/
theorem runAdd (connection : Connection) :
    accord.failing.agree Eq (Command.runAdd context shown connection)
      (Command.runAdd context shown' connection) := by
  refine accord.failing.next (accord.registry context) fun registry => ?_
  refine accord.failing.next (accord.changed _) fun registry => ?_
  exact accord.failing.next (accord.save context registry) fun _ => accord.failing.remark _ _

/-- A connection is changed alike. -/
theorem runUpdate (name : String) (patch : ConnectionPatch) :
    accord.failing.agree Eq (Command.runUpdate context shown name patch)
      (Command.runUpdate context shown' name patch) := by
  refine accord.failing.next (accord.registry context) fun registry => ?_
  refine accord.failing.next (accord.find registry name) fun connection => ?_
  refine accord.failing.next (accord.changed _) fun registry => ?_
  exact accord.failing.next (accord.save context registry) fun _ => accord.failing.remark _ _

/-- A connection is deleted alike. -/
theorem runDelete (name : String) (confirmed : Bool) :
    accord.failing.agree Eq (Command.runDelete context shown name confirmed)
      (Command.runDelete context shown' name confirmed) := by
  refine accord.failing.next (accord.registry context) fun registry => ?_
  refine accord.failing.next (accord.failing.map (accord.find registry name) fun _ _ _ => rfl) fun _ => ?_
  -- Without confirmation, the command fails before anything is changed.
  cases confirmed with
  | false => exact accord.failFirst _
  | true =>
    refine accord.failing.next (accord.changed _) fun removed => ?_
    exact accord.failing.next (accord.save context removed.2) fun _ => accord.failing.remark _ _

/-- A secret is asked for alike, and nobody answers. -/
theorem runSetSecret (name : String) :
    accord.failing.agree Eq (Command.runSetSecret context name) (Command.runSetSecret context name) := by
  refine accord.failing.next (accord.registry context) fun registry => ?_
  refine accord.failing.next (accord.find registry name) fun connection => ?_
  split
  · exact accord.failing.next (accord.failing.shows (.tell _) (.tell _)) fun _ => accord.fail _
  · exact accord.fail _

/-- A place is shown alike. -/
theorem runPlace (choice : PlaceChoice) :
    accord.failing.agree Eq (Command.runPlace context shown choice)
      (Command.runPlace context shown' choice) := by
  unfold Command.runPlace
  dsimp only
  split
  · exact accord.failing.put _ _
  · exact accord.fail _

omit context in
/-- A command on the settings is run alike. -/
theorem runConfig (sources : Sources) (command : ConfigCommand) :
    accord.failing.agree Eq (Command.runConfig sources shown command)
      (Command.runConfig sources shown' command) := by
  have environment := accord.failing.environment
  cases command with
  | view => exact accord.failing.next (accord.loadContext sources) fun context => accord.failing.put _ _
  | paths =>
    refine accord.failing.next environment fun surroundings => ?_
    refine accord.failing.next (accord.failing.loadSettings _) fun settings => ?_
    refine accord.failing.next (accord.failing.isThere _) fun settingsThere => ?_
    exact accord.failing.next (accord.failing.isThere _) fun connectionsThere => accord.failing.put _ _
  | init force =>
    refine accord.failing.next environment fun surroundings => ?_
    refine accord.failing.next (accord.failing.isThere _) fun settingsThere => ?_
    -- Settings that are there are written over by force only.
    split
    · exact accord.failFirst _
    · refine accord.failing.next (accord.orFailSame (accord.saveSettings _ _) _) fun _ => ?_
      refine accord.failing.next (accord.failing.isThere _) fun connectionsThere => ?_
      have remarks (first second : String) : accord.failing.agree Eq
          (shown.remark first >>= fun _ => shown.remark second)
          (shown'.remark first >>= fun _ => shown'.remark second) :=
        accord.failing.next (accord.failing.remark _ _) fun _ => accord.failing.remark _ _
      split
      · exact accord.failing.next (accord.orFailSame (accord.saveRegistry _ _) _) fun _ => remarks _ _
      · exact remarks _ _

/-! ### Parts of watching -/

omit context [LawfulMonad m] [LawfulMonad m'] in
/-- A filled template is put out alike, or kept in the same file. -/
theorem emit (out : Option String) (outcome : Outcome) :
    accord.agree Eq (Command.emit shown out outcome) (Command.emit shown' out outcome) := by
  cases out with
  | none => exact accord.next (accord.put _ _) fun _ => accord.give _
  | some path =>
    refine accord.next (accord.writeText path outcome.text) fun written => ?_
    cases written <;> exact accord.give _

omit [LawfulMonad m] [LawfulMonad m'] in
/-- The connections that are read anew are the same. -/
theorem reload : accord.agree Eq (Command.reload context) (Command.reload context) := by
  refine accord.next (accord.loadRegistry _) fun found => ?_
  cases found <;> exact accord.give _

/-! ### Commands that ask sources -/

variable {connect : Connect m} {connect' : Connect m'}

/-- Fetchers that are in accord are set up on both machines, or on neither. -/
def Connects (connect : Connect m) (connect' : Connect m') : Prop :=
  ∀ transport, accord.agree (EndAlike accord.Fetches) (connect transport) (connect' transport)

variable {accord} (connects : accord.Connects connect connect')

include connects

/-- Templates are filled in the same way. -/
theorem Connects.renderer (note : Option String) :
    accord.failing.agree accord.Renders (context.renderer connect note)
      (context.renderer connect' note) := by
  refine accord.failing.bind (accord.orFail (connects context.settings.transport) _) ?_
  exact fun fetch fetch' fetches => accord.failing.pure ⟨fetches, rfl, rfl⟩

/-- A template is filled alike, and shown or not. -/
theorem Connects.runRender (choice : TemplateChoice) (explain : Bool) :
    accord.failing.agree Eq (Command.runRender connect context shown choice explain)
      (Command.runRender connect' context shown' choice explain) := by
  refine accord.failing.next (accord.template choice _) fun template => ?_
  refine accord.failing.next (accord.registry context) fun registry => ?_
  refine accord.failing.bind (connects.renderer context _) fun renderer renderer' renders => ?_
  refine accord.failing.next (accord.lift (accord.report renders template _ _)) fun report => ?_
  -- The sources have been asked by now; whether the result is explained is a matter of showing.
  split
  · exact accord.failing.next (accord.failing.remark _ _) fun _ =>
      accord.failing.put _ _
  · exact accord.failing.put _ _

/-- One connection is tested alike. -/
theorem Connects.runTest (name : String) :
    accord.failing.agree Eq (Command.runTest connect context shown name)
      (Command.runTest connect' context shown' name) := by
  refine accord.failing.next (accord.registry context) fun registry => ?_
  refine accord.failing.next (accord.find registry name) fun connection => ?_
  refine accord.failing.bind (connects.renderer context _) fun renderer renderer' renders => ?_
  refine accord.failing.next (accord.lift ?_) fun inspection => accord.failing.put _ _
  rw [renders.budget]
  exact accord.inspect renders.fetch renderer.budget _

/-- A template is filled again and again alike. -/
theorem Connects.runWatch (choice : WatchChoice) :
    accord.failing.agree Eq (Command.runWatch connect context shown choice)
      (Command.runWatch connect' context shown' choice) := by
  refine accord.failing.next (accord.template choice.template _) fun template => ?_
  refine accord.failing.next (accord.registry context) fun registry => ?_
  refine accord.failing.bind (connects.renderer context _) fun renderer renderer' renders => ?_
  -- The two refreshes differ in nothing but their fetchers, and each outcome is handed on alike.
  have refreshes : accord.Refreshes
      (Refresh.make renderer template (choice.interval.getD context.settings.refreshInterval)
        (return .ofVariables context.environment) (some (Command.reload context)))
      (Refresh.make renderer' template (choice.interval.getD context.settings.refreshInterval)
        (return .ofVariables context.environment) (some (Command.reload context))) :=
    ⟨renders, rfl, rfl, accord.give _, accord.reload context⟩
  refine accord.failing.next (accord.lift
    (accord.rounds refreshes (accord.emit choice.out) _ _)) fun found => ?_
  obtain ⟨failure, job⟩ := found
  refine accord.failing.next (accord.lift (accord.proceed refreshes job.cancel)) fun _ => ?_
  cases failure with
  | none => exact accord.failing.give ()
  | some failure => exact accord.fail failure

/-- A command on connections is run alike. -/
theorem Connects.runConnections (command : ConnectionCommand) :
    accord.failing.agree Eq (Command.runConnections connect context shown command)
      (Command.runConnections connect' context shown' command) := by
  cases command with
  | list => exact accord.runList context
  | view name => exact accord.runView context name
  | add connection => exact accord.runAdd context connection
  | update name patch => exact accord.runUpdate context name patch
  | delete name confirmed => exact accord.runDelete context name confirmed
  | test name => exact connects.runTest context name
  | setSecret name => exact accord.runSetSecret context name

/-- A command other than that for scripts does the same in whatever way its results are shown. -/
theorem Connects.run {command : Command} (sources : Sources)
    (scriptless : ∀ shell, command ≠ .completions shell) :
    accord.failing.agree Eq (Invocation.run connect ⟨command, sources, shown⟩)
      (Invocation.run connect' ⟨command, sources, shown'⟩) := by
  have loads := accord.loadContext sources
  cases command with
  | config command => exact accord.runConfig sources command
  | completions shell => exact absurd rfl (scriptless shell)
  | render choice explain =>
    exact accord.failing.next loads fun context => connects.runRender context choice explain
  | connections command =>
    exact accord.failing.next loads fun context => connects.runConnections context command
  | place choice => exact accord.failing.next loads fun context => accord.runPlace context choice
  | watch choice => exact accord.failing.next loads fun context => connects.runWatch context choice

end Accord

end Placard
