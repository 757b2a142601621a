import Placard.Proofs.Command.Outcome
import Placard.Proofs.Registry.Filed
import Placard.Proofs.Registry.Run

/-! Commands on connections: the file they leave is the registry that they make of the one they found. -/

namespace Placard

/-! ### What commands are meant to do -/

/-- A connection differs from an older one exactly in what a patch gives.

A path or a pattern that is given also decides how the value is found, the pattern last. -/
structure ConnectionPatch.Changes (patch : ConnectionPatch) (old new : Connection) : Prop where
  name : new.name = patch.name.getD old.name
  url : new.url = patch.url.getD old.url
  method : new.method = patch.method.getD old.method
  auth : new.auth = patch.auth.getD old.auth
  username : new.username = patch.username.getD old.username
  secret : new.secret = patch.secret.getD old.secret
  jsonPath : new.jsonPath = patch.jsonPath.getD old.jsonPath
  pattern : new.pattern = patch.pattern.getD old.pattern
  grammar : new.grammar =
    if patch.pattern.isSome then .text else if patch.jsonPath.isSome then .json else old.grammar

namespace ConnectionCommand

/-- A command works on the file of connections alone: no source is asked, and no user. -/
def isLocal : ConnectionCommand → Bool
  | .test _ | .setSecret _ => false
  | _ => true

/-- A command changes connections, and does not only show them. -/
def edits : ConnectionCommand → Bool
  | .add _ | .update .. | .delete .. => true
  | _ => false

/-- What a command makes of a registry, or why it refuses to. -/
def apply (registry : Registry) : ConnectionCommand → Except Failure Registry
  | .add connection => (registry.add connection).mapError .ofRegistry
  | .update name patch =>
    match registry.get? name with
    | some held => (registry.update name (patch.apply held)).mapError .ofRegistry
    | none => .error (.connectionNotFound name)
  | .delete name confirmed =>
    match registry.get? name with
    | some _ =>
      if confirmed then ((registry.remove name).map (·.2)).mapError .ofRegistry
      else .error (.unconfirmed "connections delete")
    | none => .error (.connectionNotFound name)
  | .view name =>
    match registry.get? name with
    | some _ => .ok registry
    | none => .error (.connectionNotFound name)
  | .list | .test _ | .setSecret _ => .ok registry

/-- How commands end one after another on a registry in memory, and the registry they leave. -/
def course (registry : Registry) : List ConnectionCommand → List (Except Failure Unit) × Registry
  | [] => ([], registry)
  | command :: others =>
    let applied := command.apply registry
    let rest := course (registry.left applied) others
    (applied.map (fun _ => ()) :: rest.1, rest.2)

end ConnectionCommand

/-- A command on connections, with what it works on and how its results are put out. -/
structure ConnectionStep where
  context : Context
  presentation : Presentation
  command : ConnectionCommand

namespace ConnectionStep

/-- Runs the command of a step. -/
def run (connect : Connect (StateM World)) (step : ConnectionStep) :
    ExceptT Failure (StateM World) Unit :=
  Command.runConnections connect step.context step.presentation step.command

/-- How steps end one after another, and the machine they leave. -/
def runAll (connect : Connect (StateM World)) :
    List ConnectionStep → World → List (Except Failure Unit) × World
  | [], world => ([], world)
  | step :: others, world =>
    let (result, after) := outcome (step.run connect) world
    let (results, last) := runAll connect others after
    (result :: results, last)

/-- What one step does on a machine: how it ends, and what it leaves in files and on the output. -/
structure Obeys (step : ConnectionStep) (world after : World) (result : Except Failure Unit) :
    Prop where
  /-- A step that fails, for whatever reason, leaves every file byte for byte as it was. -/
  failed : ∀ failure, result = .error failure → world.disk.SameFiles after.disk
  /-- A file that cannot be loaded makes every step fail. -/
  unloadable : ∀ error,
    (Registry.load step.context.connectionsPath : StateM World _).run world = (.error error, world) →
    result = .error (step.context.storeFailure error)
  /-- A step fails as its command refuses the registry that is loaded. -/
  refused : ∀ registry failure,
    (Registry.load step.context.connectionsPath : StateM World _).run world = (.ok registry, world) →
    step.command.apply registry = .error failure → result = .error failure
  /-- A command that only shows succeeds, and leaves the disk alone. -/
  shown : ∀ registry next,
    (Registry.load step.context.connectionsPath : StateM World _).run world = (.ok registry, world) →
    step.command.apply registry = .ok next → step.command.edits = false →
    result = .ok () ∧ after.disk = world.disk
  /-- A command that edits succeeds where the file can be saved.

  The file then holds the text of the changed registry, and that registry is loaded from it. -/
  edited : ∀ registry next,
    (Registry.load step.context.connectionsPath : StateM World _).run world = (.ok registry, world) →
    step.command.apply registry = .ok next → step.command.edits = true →
    (result = .ok () ↔ world.CanSave step.context.connectionsPath) ∧
    (result = .ok () →
      after.disk.read step.context.connectionsPath = .ok (Text.bytes next.write.toList) ∧
      (Registry.load step.context.connectionsPath : StateM World _).run after = (.ok next, after) ∧
      after.CanSave step.context.connectionsPath)
  /-- A plain list puts out the names in their order, one on a line. -/
  listed : ∀ registry,
    (Registry.load step.context.connectionsPath : StateM World _).run world = (.ok registry, world) →
    step.command = .list → step.presentation.format = .plain → step.presentation.quiet = false →
    after.said = world.said ++ String.join (registry.toList.map (·.name ++ "\n"))

end ConnectionStep

/-! ### Patches and names -/

/-- Applying a patch changes exactly what the patch gives. -/
theorem ConnectionPatch.changes_apply (patch : ConnectionPatch) (old : Connection) :
    patch.Changes old (patch.apply old) := by
  -- Only the path and the pattern have more than one effect.
  cases pathed : patch.jsonPath <;> cases patterned : patch.pattern <;>
    constructor <;> simp [ConnectionPatch.apply, pathed, patterned, Connection.withJsonPath,
      Connection.withPattern]

/-- Lines of texts are the texts joined by line ends, with one more at the end. -/
theorem joinWith_newline (first : String) (others : List String) :
    Text.joinWith "\n" (first :: others) ++ "\n" =
      String.join ((first :: others).map (· ++ "\n")) := by
  -- Each further text brings the line end that stands in front of it.
  induction others generalizing first with
  | nil =>
    show first ++ "\n" = String.join [first ++ "\n"]
    simp
  | cons second others ih =>
    have joined : Text.joinWith "\n" (first :: second :: others) =
        first ++ "\n" ++ Text.joinWith "\n" (second :: others) := rfl
    calc
      Text.joinWith "\n" (first :: second :: others) ++ "\n"
        = first ++ "\n" ++ (Text.joinWith "\n" (second :: others) ++ "\n") := by
          rw [joined, String.append_assoc]
      _ = first ++ "\n" ++ String.join ((second :: others).map (· ++ "\n")) := by rw [ih second]
      _ = String.join ((first :: second :: others).map (· ++ "\n")) := (String.join_cons ..).symm

namespace Presentation

/-- A machine after a text was put on a line of its output, unless all is quiet or the text empty. -/
def shown (presentation : Presentation) (text : String) (world : World) : World :=
  if presentation.quiet || text == "" then world else { world with said := world.said ++ (text ++ "\n") }

/-- A machine after a remark was put beside its output, unless all is quiet. -/
def noted (presentation : Presentation) (text : String) (world : World) : World :=
  if presentation.quiet then world else { world with told := world.told ++ (text ++ "\n") }

/-- Showing a text leaves the disk alone. -/
@[simp] theorem shown_disk (presentation : Presentation) (text : String) (world : World) :
    (presentation.shown text world).disk = world.disk := by
  unfold shown
  split <;> rfl

/-- A remark leaves the disk alone. -/
@[simp] theorem noted_disk (presentation : Presentation) (text : String) (world : World) :
    (presentation.noted text world).disk = world.disk := by
  unfold noted
  split <;> rfl

/-- Putting a result out shows its text. -/
@[simp] theorem outcome_putView (presentation : Presentation) (view : View) (world : World) :
    outcome (presentation.putView view) world =
      (.ok (), presentation.shown (view.text presentation.format) world) := by
  unfold putView put shown
  split
  · rfl
  · rfl

/-- Making a remark notes its text. -/
@[simp] theorem outcome_remark (presentation : Presentation) (text : String) (world : World) :
    outcome (presentation.remark text) world = (.ok (), presentation.noted text world) := by
  unfold remark noted
  split
  · rfl
  · rfl

end Presentation

/-! ### Loading, saving and looking -/

namespace Context

/-- A command loads the connections, or fails as loading fails. -/
@[simp] theorem outcome_registry (context : Context) (world : World) :
    outcome context.registry world =
      ((Registry.loaded world.disk context.connectionsPath).mapError context.storeFailure, world) := by
  rw [Context.registry, outcome_orFail, Registry.load_run_eq]

/-- A command that loads the connections looks at them. -/
theorem looks_registry {context : Context} {registry : Registry} {world : World}
    (loads : Registry.loaded world.disk context.connectionsPath = .ok registry) :
    Looks context.registry world registry := by
  rw [Looks, outcome_registry, loads]
  rfl

/-- A command saves connections, or fails as saving fails. -/
@[simp] theorem outcome_save (context : Context) (registry : Registry) (world : World) :
    outcome (context.save registry) world =
      (((registry.save context.connectionsPath : StateM World (Except StoreError Unit)).run world).1.mapError
        context.storeFailure,
      ((registry.save context.connectionsPath : StateM World (Except StoreError Unit)).run world).2) := by
  rw [Context.save, outcome_orFail]

end Context

/-- The summary of a connection is made by looking at the disk, and keeps the name. -/
theorem exists_looks_summarize (world : World) :
    ∃ kind : Connection → SourceKind, ∀ connection,
      Looks (Command.summarize connection) world (connection.summary (kind connection)) := by
  refine ⟨fun connection => (Source.ofLocation
    ((world.disk.node? connection.url).map Node.kind == some .file) connection.url connection.method
    connection.credentials).kind, ?_⟩
  intro connection
  rfl

/-- A connection that is found is given, and nothing else happens. -/
theorem outcome_find (registry : Registry) (name : String) (world : World) :
    outcome (Command.find registry name) world =
      match registry.get? name with
      | some connection => (.ok connection, world)
      | none => (.error (.connectionNotFound name), world) := by
  unfold Command.find
  cases registry.get? name with
  | none => rfl
  | some connection => rfl

/-- Finding a connection only to see that it is there. -/
theorem outcome_discard_find (registry : Registry) (name : String) (world : World) :
    outcome (discard (Command.find registry name)) world =
      match registry.get? name with
      | some _ => (.ok (), world)
      | none => (.error (.connectionNotFound name), world) := by
  unfold Command.find
  cases registry.get? name with
  | none => rfl
  | some connection => rfl

/-- A refused change fails the command, and nothing else happens. -/
theorem outcome_changed {α : Type} (result : Except RegistryError α) (world : World) :
    outcome (Command.changed result) world = (result.mapError .ofRegistry, world) := by
  unfold Command.changed
  cases result with
  | ok value => rfl
  | error error => rfl

/-- A plain list puts out the names of the connections in their order, each on a line. -/
theorem said_list {registry : Registry} (sound : registry.Sound) (kind : Connection → SourceKind)
    {presentation : Presentation} (plain : presentation.format = .plain)
    (loud : presentation.quiet = false) (world : World) :
    (presentation.shown ((ConnectionSummary.listView
        (registry.toList.map fun held => held.summary (kind held))).text presentation.format) world).said =
      world.said ++ String.join (registry.toList.map (·.name ++ "\n")) := by
  have named := sound.named
  rw [plain]
  show (presentation.shown (Text.joinWith "\n"
    ((registry.toList.map fun held => held.summary (kind held)).map (·.name))) world).said = _
  rw [List.map_map]
  show (presentation.shown (Text.joinWith "\n" (registry.toList.map (·.name))) world).said = _
  cases listed : registry.toList with
  | nil =>
    -- Nothing is put out for a registry without connections.
    simp [Presentation.shown, Text.joinWith]
  | cons first others =>
    rw [listed] at named
    have filled : first.name ≠ "" := by
      intro empty
      have blank := named first List.mem_cons_self
      rw [empty] at blank
      cases blank
    have some_ : Text.joinWith "\n" ((first :: others).map (·.name)) ≠ "" := by
      cases others with
      | nil => exact filled
      | cons second rest =>
        -- The joined text begins with the first name, which is not empty.
        have joined : Text.joinWith "\n" ((first :: second :: rest).map (·.name)) =
            first.name ++ "\n" ++ Text.joinWith "\n" ((second :: rest).map (·.name)) := rfl
        rw [joined]
        intro empty
        exact filled (String.append_eq_empty_iff.mp (String.append_eq_empty_iff.mp empty).1).1
    have lines := joinWith_newline first.name (others.map (·.name))
    rw [List.map_cons] at some_
    rw [Presentation.shown, List.map_cons]
    simp only [loud, beq_eq_false_iff_ne.mpr some_]
    rw [Bool.false_or, if_neg Bool.false_ne_true]
    simp only [lines]
    rw [← List.map_cons, List.map_map]
    rfl

namespace ConnectionCommand

/-- A command that only shows leaves the registry as it is. -/
theorem apply_shown {registry next : Registry} {command : ConnectionCommand}
    (applied : command.apply registry = .ok next) (shows : command.edits = false) : next = registry := by
  -- These commands give the registry back, where they are not refused.
  cases command with
  | list =>
    cases applied
    rfl
  | test name =>
    cases applied
    rfl
  | setSecret name =>
    cases applied
    rfl
  | view name =>
    rw [apply] at applied
    split at applied
    · cases applied
      rfl
    · cases applied
  | add connection => cases shows
  | update name patch => cases shows
  | delete name confirmed => cases shows

/-- A command leaves a sound registry sound. -/
theorem apply_sound {registry next : Registry} (sound : registry.Sound) {command : ConnectionCommand}
    (applied : command.apply registry = .ok next) : next.Sound := by
  -- A command that edits does one operation, which keeps registries sound.
  cases edits : command.edits with
  | false => exact apply_shown applied edits ▸ sound
  | true =>
    cases command with
    | list => cases edits
    | test name => cases edits
    | setSecret name => cases edits
    | view name => cases edits
    | add connection => exact sound.add (mapError_eq_ok_iff.mp applied)
    | update name patch =>
      rw [apply] at applied
      split at applied
      · exact sound.update (mapError_eq_ok_iff.mp applied)
      · cases applied
    | delete name confirmed =>
      rw [apply] at applied
      split at applied
      · split at applied
        · have success := mapError_eq_ok_iff.mp applied
          cases removed : registry.remove name with
          | error error =>
            rw [removed] at success
            cases success
          | ok result =>
            rw [removed] at success
            cases success
            exact sound.remove removed
        · cases applied
      · cases applied

end ConnectionCommand

/-! ### Single steps -/

namespace ConnectionStep

variable (connect : Connect (StateM World)) {step : ConnectionStep} {world : World}

/-- A file that cannot be loaded makes every step fail before anything else happens. -/
theorem run_unloadable (local_ : step.command.isLocal = true) {error : StoreError}
    (broken : Registry.loaded world.disk step.context.connectionsPath = .error error) :
    outcome (step.run connect) world = (.error (step.context.storeFailure error), world) := by
  -- Every command begins by loading.
  have loading : outcome step.context.registry world =
      (.error (step.context.storeFailure error), world) := by
    rw [Context.outcome_registry, broken]
    rfl
  unfold run
  cases command : step.command with
  | list => simp only [Command.runConnections, Command.runList, outcome_bind, loading]
  | view name => simp only [Command.runConnections, Command.runView, outcome_bind, loading]
  | add connection => simp only [Command.runConnections, Command.runAdd, outcome_bind, loading]
  | update name patch => simp only [Command.runConnections, Command.runUpdate, outcome_bind, loading]
  | delete name confirmed =>
    simp only [Command.runConnections, Command.runDelete, outcome_bind, loading]
  | test name => simp [command, ConnectionCommand.isLocal] at local_
  | setSecret name => simp [command, ConnectionCommand.isLocal] at local_

/-- A refused command fails before anything else happens. -/
theorem run_refused {registry : Registry} {failure : Failure}
    (loads : Registry.loaded world.disk step.context.connectionsPath = .ok registry)
    (refused : step.command.apply registry = .error failure) :
    outcome (step.run connect) world = (.error failure, world) := by
  have loading : outcome step.context.registry world = (.ok registry, world) :=
    Context.looks_registry loads
  unfold run
  -- A command is refused for a connection that is missing, or by the change itself.
  cases command : step.command with
  | list => simp [command, ConnectionCommand.apply] at refused
  | test name => simp [command, ConnectionCommand.apply] at refused
  | setSecret name => simp [command, ConnectionCommand.apply] at refused
  | view name =>
    rw [command, ConnectionCommand.apply] at refused
    simp only [Command.runConnections, Command.runView, outcome_bind, loading, outcome_find]
    cases found : registry.get? name with
    | some held =>
      rw [found] at refused
      cases refused
    | none =>
      rw [found] at refused
      cases refused
      rfl
  | add connection =>
    rw [command, ConnectionCommand.apply] at refused
    simp only [Command.runConnections, Command.runAdd, outcome_bind, loading, outcome_changed, refused]
  | update name patch =>
    rw [command, ConnectionCommand.apply] at refused
    simp only [Command.runConnections, Command.runUpdate, outcome_bind, loading, outcome_find]
    cases found : registry.get? name with
    | none =>
      rw [found] at refused
      cases refused
      rfl
    | some held =>
      rw [found] at refused
      simp only [outcome_changed, refused]
  | delete name confirmed =>
    rw [command, ConnectionCommand.apply] at refused
    simp only [Command.runConnections, Command.runDelete, outcome_bind, loading, outcome_discard_find]
    cases found : registry.get? name with
    | none =>
      rw [found] at refused
      cases refused
      rfl
    | some held =>
      simp only [found] at refused
      cases confirmed with
      | false =>
        cases refused
        rfl
      | true =>
        -- A connection that was found is always removed.
        rw [Registry.remove, found] at refused
        cases refused

/-- A command that only shows ends well, and changes nothing but the output. -/
theorem run_shown {registry next : Registry}
    (loads : Registry.loaded world.disk step.context.connectionsPath = .ok registry)
    (applied : step.command.apply registry = .ok next) (local_ : step.command.isLocal = true)
    (shows : step.command.edits = false) :
    ∃ after, outcome (step.run connect) world = (.ok (), after) ∧ after.disk = world.disk ∧
      (step.command = .list → step.presentation.format = .plain → step.presentation.quiet = false →
        after.said = world.said ++ String.join (registry.toList.map (·.name ++ "\n"))) := by
  have loading : outcome step.context.registry world = (.ok registry, world) :=
    Context.looks_registry loads
  obtain ⟨kind, looks⟩ := exists_looks_summarize world
  unfold run
  -- Only viewing and listing are left, as the others edit or ask a source or the user.
  cases command : step.command with
  | add connection => simp [command, ConnectionCommand.edits] at shows
  | update name patch => simp [command, ConnectionCommand.edits] at shows
  | delete name confirmed => simp [command, ConnectionCommand.edits] at shows
  | test name => simp [command, ConnectionCommand.isLocal] at local_
  | setSecret name => simp [command, ConnectionCommand.isLocal] at local_
  | view name =>
    rw [command, ConnectionCommand.apply] at applied
    simp only [Command.runConnections, Command.runView, outcome_bind, loading, outcome_find]
    cases found : registry.get? name with
    | none =>
      rw [found] at applied
      cases applied
    | some held =>
      have summary : outcome (Command.summarize held) world =
          (.ok (held.summary (kind held)), world) := looks held
      simp only [summary, Presentation.outcome_putView]
      exact ⟨_, rfl, Presentation.shown_disk .., fun other => by cases other⟩
  | list =>
    have summaries : outcome (registry.toList.mapM Command.summarize) world =
        (.ok (registry.toList.map fun held => held.summary (kind held)), world) :=
      Looks.mapM looks registry.toList
    simp only [Command.runConnections, Command.runList, outcome_bind, loading]
    split
    · -- An empty registry has no table; in the plain format this remark is not made.
      rename_i remarked
      refine ⟨_, Presentation.outcome_remark .., Presentation.noted_disk .., ?_⟩
      intro _ plain _
      simp [plain] at remarked
    · simp only [outcome_bind, summaries, Presentation.outcome_putView]
      refine ⟨_, rfl, Presentation.shown_disk .., ?_⟩
      intro _ plain loud
      exact said_list (Registry.loaded_sound loads) kind plain loud world

/-- A command that edits saves what it makes of the registry, and makes a remark when that is done. -/
theorem run_edited {registry next : Registry}
    (loads : Registry.loaded world.disk step.context.connectionsPath = .ok registry)
    (applied : step.command.apply registry = .ok next) (edits : step.command.edits = true) :
    ∃ text, outcome (step.run connect) world =
      match (next.save step.context.connectionsPath : StateM World (Except StoreError Unit)).run world with
      | (.ok _, after) => (.ok (), step.presentation.noted text after)
      | (.error error, after) => (.error (step.context.storeFailure error), after) := by
  have loading : outcome step.context.registry world = (.ok registry, world) :=
    Context.looks_registry loads
  -- Saving ends the command when it fails, and else only the remark is left to be made.
  have saving : ∀ text, outcome (do step.context.save next; step.presentation.remark text) world =
      match (next.save step.context.connectionsPath : StateM World (Except StoreError Unit)).run world with
      | (.ok _, after) => (.ok (), step.presentation.noted text after)
      | (.error error, after) => (.error (step.context.storeFailure error), after) := by
    intro text
    rw [outcome_bind, Context.outcome_save]
    rcases (next.save step.context.connectionsPath : StateM World (Except StoreError Unit)).run world
      with ⟨result, after⟩
    cases result with
    | ok _ => exact Presentation.outcome_remark ..
    | error error => rfl
  unfold run
  -- Each command loads, finds what it needs and changes the registry before it comes to saving.
  cases command : step.command with
  | list => simp [command, ConnectionCommand.edits] at edits
  | view name => simp [command, ConnectionCommand.edits] at edits
  | test name => simp [command, ConnectionCommand.edits] at edits
  | setSecret name => simp [command, ConnectionCommand.edits] at edits
  | add connection =>
    rw [command, ConnectionCommand.apply] at applied
    simp only [Command.runConnections, Command.runAdd]
    rw [outcome_bind, loading]
    simp only []
    rw [outcome_bind, outcome_changed, applied]
    exact ⟨_, saving _⟩
  | update name patch =>
    rw [command, ConnectionCommand.apply] at applied
    cases found : registry.get? name with
    | none =>
      rw [found] at applied
      cases applied
    | some held =>
      simp only [found] at applied
      simp only [Command.runConnections, Command.runUpdate]
      rw [outcome_bind, loading]
      simp only []
      rw [outcome_bind, outcome_find, found]
      simp only []
      rw [outcome_bind, outcome_changed, applied]
      exact ⟨_, saving _⟩
  | delete name confirmed =>
    rw [command, ConnectionCommand.apply] at applied
    cases found : registry.get? name with
    | none =>
      rw [found] at applied
      cases applied
    | some held =>
      simp only [found] at applied
      cases confirmed with
      | false => cases applied
      | true =>
        simp only [Command.runConnections, Command.runDelete]
        rw [outcome_bind, loading]
        simp only []
        rw [outcome_bind, outcome_discard_find, found]
        simp only [Bool.not_true, Bool.false_eq_true, if_false]
        rw [outcome_bind, outcome_changed]
        cases removed : registry.remove name with
        | error error =>
          rw [removed] at applied
          cases applied
        | ok result =>
          rw [removed] at applied
          cases applied
          exact ⟨_, saving _⟩

/-- A command that edits, and is not refused, ends as saving ends.

Where it succeeds, the file holds the text of the changed registry and may be saved again. -/
theorem run_saves {registry next : Registry}
    (loads : Registry.loaded world.disk step.context.connectionsPath = .ok registry)
    (applied : step.command.apply registry = .ok next) (edits : step.command.edits = true) :
    (∀ failure, (outcome (step.run connect) world).1 = .error failure →
      world.disk.SameFiles (outcome (step.run connect) world).2.disk) ∧
    ((outcome (step.run connect) world).1 = .ok () ↔ world.CanSave step.context.connectionsPath) ∧
    ((outcome (step.run connect) world).1 = .ok () →
      (outcome (step.run connect) world).2.disk.read step.context.connectionsPath =
          .ok (Text.bytes next.write.toList) ∧
        Registry.loaded (outcome (step.run connect) world).2.disk step.context.connectionsPath =
          .ok next ∧
        (outcome (step.run connect) world).2.CanSave step.context.connectionsPath) := by
  have sound : next.Sound := ConnectionCommand.apply_sound (Registry.loaded_sound loads) applied
  obtain ⟨text, ran⟩ := run_edited connect loads applied edits
  have able := next.canSave_iff step.context.connectionsPath world
  rw [ran]
  rcases saved : (next.save step.context.connectionsPath : StateM World (Except StoreError Unit)).run
    world with ⟨result, after⟩
  rw [saved] at able
  cases result with
  | error error =>
    -- A save that failed shows that the file cannot be saved, and left all files alone.
    refine ⟨fun _ _ => Registry.save_failed saved, ?_, ?_⟩
    · rw [able]
      constructor
      · rintro ⟨⟩
      · rintro ⟨_, ⟨⟩⟩
    · rintro ⟨⟩
  | ok value =>
    cases value
    obtain ⟨content, found, again⟩ := Registry.saved_file sound saved
    -- The remark that follows a save leaves the disk alone.
    have kept : (step.presentation.noted text after).disk = after.disk := Presentation.noted_disk ..
    refine ⟨?_, ?_, ?_⟩
    · rintro failure ⟨⟩
    · rw [able]
      exact ⟨fun _ => ⟨after, rfl⟩, fun _ => rfl⟩
    · intro _
      refine ⟨kept ▸ content, kept ▸ found, ?_⟩
      rw [canSave_iff_withParent] at again ⊢
      exact kept ▸ again

/-- A step that fails leaves every file as it was. -/
theorem run_failed (local_ : step.command.isLocal = true) {failure : Failure}
    (failed : (outcome (step.run connect) world).1 = .error failure) :
    world.disk.SameFiles (outcome (step.run connect) world).2.disk := by
  -- The failures are those of loading, those of the command, and those of saving.
  cases loads : Registry.loaded world.disk step.context.connectionsPath with
  | error error =>
    rw [run_unloadable connect local_ loads]
    exact .refl _
  | ok registry =>
    cases applied : step.command.apply registry with
    | error refusal =>
      rw [run_refused connect loads applied]
      exact .refl _
    | ok next =>
      cases edits : step.command.edits with
      | true => exact (run_saves connect loads applied edits).1 failure failed
      | false =>
        obtain ⟨after, ran, -⟩ := run_shown connect loads applied local_ edits
        rw [ran] at failed
        cases failed

/-- Every step obeys, on every machine. -/
theorem run_obeys (local_ : step.command.isLocal = true) :
    step.Obeys world (outcome (step.run connect) world).2 (outcome (step.run connect) world).1 := by
  have loading : ∀ result : Except StoreError Registry,
      (Registry.load step.context.connectionsPath : StateM World _).run world = (result, world) →
        Registry.loaded world.disk step.context.connectionsPath = result := by
    intro result loads
    rw [Registry.load_run_eq] at loads
    exact (Prod.mk.inj loads).1
  -- Each part is what the lemma of its kind of step says about the registry that was loaded.
  constructor
  case failed =>
    intro failure failed
    exact run_failed connect local_ failed
  case unloadable =>
    intro error broken
    rw [run_unloadable connect local_ (loading _ broken)]
  case refused =>
    intro registry failure loads refused
    rw [run_refused connect (loading _ loads) refused]
  case shown =>
    intro registry next loads applied shows
    obtain ⟨after, ran, kept, -⟩ := run_shown connect (loading _ loads) applied local_ shows
    rw [ran]
    exact ⟨rfl, kept⟩
  case edited =>
    intro registry next loads applied edits
    obtain ⟨-, able, done⟩ := run_saves connect (loading _ loads) applied edits
    refine ⟨able, fun success => ?_⟩
    obtain ⟨content, found, again⟩ := done success
    refine ⟨content, ?_, again⟩
    rw [Registry.load_run_eq, found]
  case listed =>
    intro registry loads list plain loud
    have applied : step.command.apply registry = .ok registry := by
      rw [list]
      rfl
    have shows : step.command.edits = false := by
      rw [list]
      rfl
    obtain ⟨after, ran, -, said⟩ := run_shown connect (loading _ loads) applied local_ shows
    rw [ran]
    exact said list plain loud

/-! ### Runs -/

/-- Where the file can be saved, one step does to it what its command does to the registry. -/
theorem run_course {path : String} (shared : step.context.connectionsPath = path)
    (local_ : step.command.isLocal = true) {registry : Registry}
    (loads : Registry.loaded world.disk path = .ok registry) (able : world.CanSave path) :
    (outcome (step.run connect) world).1 = (step.command.apply registry).map (fun _ => ()) ∧
      Registry.loaded (outcome (step.run connect) world).2.disk path =
        .ok (registry.left (step.command.apply registry)) ∧
      (outcome (step.run connect) world).2.CanSave path := by
  subst shared
  -- A refused command and one that only shows leave the file alone; one that edits can save it.
  cases applied : step.command.apply registry with
  | error refusal =>
    rw [run_refused connect loads applied]
    exact ⟨rfl, loads, able⟩
  | ok next =>
    cases edits : step.command.edits with
    | true =>
      obtain ⟨-, saves, done⟩ := run_saves connect loads applied edits
      obtain ⟨-, found, again⟩ := done (saves.mpr able)
      exact ⟨saves.mpr able, found, again⟩
    | false =>
      obtain ⟨after, ran, kept, -⟩ := run_shown connect loads applied local_ edits
      have same : next = registry := ConnectionCommand.apply_shown applied edits
      rw [ran, same]
      refine ⟨rfl, ?_, ?_⟩
      · show Registry.loaded after.disk _ = .ok registry
        rw [kept, loads]
      · rw [canSave_iff_withParent] at able ⊢
        rw [kept]
        exact able

/-- Where the file can be saved, steps one after another do to it what they do to a registry. -/
theorem runAll_course {path : String} {steps : List ConnectionStep}
    (shared : ∀ step ∈ steps, step.context.connectionsPath = path ∧ step.command.isLocal = true)
    {world : World} {registry : Registry} (loads : Registry.loaded world.disk path = .ok registry)
    (able : world.CanSave path) :
    (runAll connect steps world).1 = (ConnectionCommand.course registry (steps.map (·.command))).1 ∧
      Registry.loaded (runAll connect steps world).2.disk path =
        .ok (ConnectionCommand.course registry (steps.map (·.command))).2 ∧
      (runAll connect steps world).2.CanSave path := by
  -- Each step starts from the file and the registry that the one before it left in agreement.
  induction steps generalizing world registry with
  | nil => exact ⟨rfl, loads, able⟩
  | cons step others ih =>
    obtain ⟨path_, local_⟩ := shared step List.mem_cons_self
    obtain ⟨ended, found, again⟩ := run_course connect path_ local_ loads able
    obtain ⟨results, last, still⟩ :=
      ih (fun other member => shared other (List.mem_cons_of_mem _ member)) found again
    refine ⟨?_, last, still⟩
    show (outcome (step.run connect) world).1 ::
      (runAll connect others (outcome (step.run connect) world).2).1 = _
    rw [ended, results]
    rfl

/-- Commands on one file keep it in step with a registry in memory.

Each command in turn obeys what is asked of it on the machine that those before it left. Where the
file can be saved, all commands end as they do on the registry that was loaded first, and the
registry that is loaded last is the one they make of it. -/
theorem commands_follow {path : String} {steps : List ConnectionStep}
    (shared : ∀ step ∈ steps, step.context.connectionsPath = path ∧ step.command.isLocal = true)
    (world : World) :
    (∀ before step later, steps = before ++ step :: later →
      step.Obeys (runAll connect before world).2
        (outcome (step.run connect) (runAll connect before world).2).2
        (outcome (step.run connect) (runAll connect before world).2).1) ∧
    (∀ registry, (Registry.load path : StateM World _).run world = (.ok registry, world) →
      world.CanSave path →
      (runAll connect steps world).1 =
          (ConnectionCommand.course registry (steps.map (·.command))).1 ∧
        (Registry.load path : StateM World _).run (runAll connect steps world).2 =
          (.ok (ConnectionCommand.course registry (steps.map (·.command))).2,
            (runAll connect steps world).2)) ∧
    ∀ (patch : ConnectionPatch) (held : Connection), patch.Changes held (patch.apply held) := by
  refine ⟨?_, ?_, fun patch held => patch.changes_apply held⟩
  · rintro before step later rfl
    exact run_obeys connect (shared step (by simp)).2
  · intro registry loads able
    rw [Registry.load_run_eq] at loads
    obtain ⟨results, last, -⟩ := runAll_course connect shared (Prod.mk.inj loads).1 able
    refine ⟨results, ?_⟩
    rw [Registry.load_run_eq, last]

/-- A connection is added to a missing file, kept for want of a yes, renamed, and listed. -/
theorem commands_follow_renamed :
    ∃ (connect : Connect (StateM World)) (steps : List ConnectionStep) (world : World),
      steps.map (·.command) = [.add { name := "a", url := "cmd://date" }, .delete "a" false,
        .update "a" { name := some "b", jsonPath := some "x" }, .list] ∧
      world.disk = ⟨[(["data"], .directory)], []⟩ ∧
      (runAll connect steps world).1 =
        [.ok (), .error (.unconfirmed "connections delete"), .ok (), .ok ()] ∧
      (Registry.load "data/list" : StateM World _).run (runAll connect steps world).2 =
        (.ok ⟨[("b", { name := "b", url := "cmd://date", jsonPath := "x" })]⟩,
          (runAll connect steps world).2) := by
  let context : Context := ⟨[], "c.toml", {}, "data/list", ⟨0⟩⟩
  let steps : List ConnectionStep := [
    ⟨context, {}, .add { name := "a", url := "cmd://date" }⟩, ⟨context, {}, .delete "a" false⟩,
    ⟨context, {}, .update "a" { name := some "b", jsonPath := some "x" }⟩, ⟨context, {}, .list⟩]
  let world : World := ⟨⟨[(["data"], .directory)], []⟩, [], ⟨0⟩, "", ""⟩
  have shared : ∀ step ∈ steps,
      step.context.connectionsPath = "data/list" ∧ step.command.isLocal = true := by
    simp [steps, context, ConnectionCommand.isLocal]
  have able : world.CanSave "data/list" := ⟨_, rfl, by decide, ["data", "list"], by rfl, by decide⟩
  obtain ⟨results, last⟩ :=
    (commands_follow (fun _ => pure (.error (.tls ""))) shared world).2.1 .empty rfl able
  exact ⟨_, steps, world, rfl, rfl, results.trans (by decide), last.trans (by rfl)⟩

end ConnectionStep

end Placard
