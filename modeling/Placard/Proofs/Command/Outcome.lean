import Placard.Command.Connections
import Placard.Proofs.Settings.Filed

/-! What the actions of a command give on a machine that is a value, and the machine they leave. -/

namespace Placard

variable {α β ε : Type}

/-- What an action of a command gives on a machine, and the machine after it. -/
def outcome (action : ExceptT Failure (StateM World) α) (world : World) : Except Failure α × World :=
  StateT.run (m := Id) action.run world

/-- An action only looks at a machine: it gives a value and leaves the machine as it was. -/
def Looks (action : ExceptT Failure (StateM World) α) (world : World) (value : α) : Prop :=
  outcome action world = (.ok value, world)

/-- What comes next starts where the first action ended, unless that failed. -/
@[simp] theorem outcome_bind (action : ExceptT Failure (StateM World) α)
    (next : α → ExceptT Failure (StateM World) β) (world : World) :
    outcome (action >>= next) world =
      match outcome action world with
      | (.ok value, after) => outcome (next value) after
      | (.error failure, after) => (.error failure, after) := by
  -- Both layers of the action are opened once, here, and nowhere after.
  rw [outcome, outcome, ExceptT.run_bind, StateT.run_bind, id_bind_eq]
  rcases StateT.run (m := Id) action.run world with ⟨result, after⟩
  cases result with
  | ok value => rfl
  | error failure => rfl

/-- Giving a value leaves the machine alone. -/
@[simp] theorem outcome_pure (value : α) (world : World) :
    outcome (pure value) world = (.ok value, world) := rfl

/-- An error of an action becomes a failure of the command. -/
@[simp] theorem outcome_orFail (failure : ε → Failure) (action : StateM World (Except ε α))
    (world : World) :
    outcome (orFail failure action) world =
      ((StateT.run (m := Id) action world).1.mapError failure, (StateT.run (m := Id) action world).2) :=
  rfl

/-- Looking at each element of a list in turn is looking at the whole list. -/
theorem Looks.mapM {action : α → ExceptT Failure (StateM World) β} {value : α → β} {world : World}
    (looks : ∀ item, Looks (action item) world (value item)) (items : List α) :
    Looks (items.mapM action) world (items.map value) := by
  induction items with
  | nil => rfl
  | cons item others ih =>
    have first : outcome (action item) world = (.ok (value item), world) := looks item
    have rest : outcome (others.mapM action) world = (.ok (others.map value), world) := ih
    rw [Looks, List.mapM_cons, outcome_bind, first]
    simp only [outcome_bind, rest, outcome_pure, List.map_cons]

/-- The variables are there to be read. -/
@[simp] theorem outcome_environment (world : World) :
    outcome Machine.environment world = (.ok world.environment, world) := rfl

/-- Whether something stands where a path leads is a question to the disk. -/
@[simp] theorem outcome_isThere (path : String) (world : World) :
    outcome (Machine.isThere path) world = (.ok (world.disk.node? path).isSome, world) := by
  have kind : outcome (Machine.kind? path) world =
      (.ok ((world.disk.node? path).map Node.kind), world) := rfl
  simp only [Machine.isThere, outcome_bind, kind, outcome_pure, Option.isSome_map]

/-- Looking for a settings file within an action that may fail. -/
theorem Settings.outcome_firstFile? (paths : List String) (world : World) :
    outcome (firstFile? paths) world = (.ok (world.disk.firstFile? paths), world) := by
  induction paths with
  | nil => rfl
  | cons path others ih =>
    have kind : outcome (Machine.isFile path) world =
        (.ok ((world.disk.node? path).map Node.kind == some .file), world) := rfl
    rw [firstFile?, outcome_bind, kind, Disk.firstFile?, List.find?_cons]
    cases (world.disk.node? path).map Node.kind == some .file with
    | true => rfl
    | false => exact ih

/-- Reading a text within an action that may fail. -/
theorem outcome_readText (path : String) (world : World) :
    outcome (Machine.readText path) world = (.ok (world.disk.readText path), world) := by
  have bytes : outcome (Machine.read path) world = (.ok (world.disk.read path), world) := rfl
  rw [Machine.readText, outcome_bind, bytes, Disk.readText]
  cases world.disk.read path with
  | error fault => rfl
  | ok content =>
    simp only []
    cases Text.decode? content with
    | none => rfl
    | some text => rfl

/-- Loading settings within an action that may fail; what fails is the loading, not the action. -/
theorem Settings.outcome_load (path : String) (world : World) :
    outcome (load path) world = (.ok (loaded world path), world) := by
  have working : outcome Machine.working world = (.ok (Path.ofNames world.disk.working), world) := rfl
  -- Each way in which reading the file may end is a layer or an error, never a failure of the action.
  have file : outcome (readFile path) world = (.ok (givenFile world.disk path), world) := by
    rw [readFile, outcome_bind, working]
    simp only [outcome_bind, outcome_firstFile?, givenFile, Disk.settingsFile?]
    cases world.disk.firstFile? (Path.upward (Path.ofNames world.disk.working) path) with
    | none => rfl
    | some found =>
      simp only [outcome_bind, outcome_readText, Disk.readText]
      cases world.disk.read found with
      | error fault => rfl
      | ok content =>
        simp only []
        cases Text.decode? content with
        | none => rfl
        | some letters =>
          simp only []
          cases Toml.parse (.ofList letters) with
          | ok whole => rfl
          | error stop => rfl
  rw [load, outcome_bind, file, loaded]
  cases givenFile world.disk path with
  | error error => rfl
  | ok given => rfl

/-- What commands work on where settings were loaded. -/
def Sources.context (sources : Sources) (environment : List (String × String)) (settings : Settings) :
    Context where
  environment := environment
  settingsPath := sources.settingsPath environment
  settings := settings
  connectionsPath := sources.connectionsPath settings (sources.settingsPath environment)
  budget := sources.budget settings

/-- Loading what a command works on is loading settings, and leaves the machine as it was. -/
theorem Context.outcome_load (sources : Sources) (world : World) :
    outcome (Context.load sources) world =
      (((Settings.loaded world (sources.settingsPath world.environment)).mapError
        (Failure.ofStore (usualSettingsPath world.environment))).map
          (sources.context world.environment), world) := by
  rw [Context.load, outcome_bind, outcome_environment]
  simp only [outcome_bind, outcome_orFail, Settings.load_run_eq]
  cases Settings.loaded world (sources.settingsPath world.environment) with
  | error error => rfl
  | ok settings => rfl

/-- A command works on the settings that are loaded. -/
theorem Context.looks_load_iff {sources : Sources} {world : World} {context : Context} :
    Looks (Context.load sources) world context ↔
      ∃ settings, Settings.loaded world (sources.settingsPath world.environment) = .ok settings ∧
        context = sources.context world.environment settings := by
  rw [Looks, outcome_load]
  cases Settings.loaded world (sources.settingsPath world.environment) with
  | error error => simp [Except.mapError, Except.map]
  | ok settings => simp [Except.mapError, Except.map, eq_comm]

end Placard
