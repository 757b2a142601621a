import Placard.Command.Run
import Placard.Proofs.Command.Connections
import Placard.Proofs.Settings.RoundTrip
import Placard.Source.Fetch

/-! New settings: what is protected while they are written, and what is loaded from them. -/

namespace Placard

open Command

namespace Sources

variable (sources : Sources)

/-- The path of new settings. -/
def newSettings (world : World) : String := sources.settingsPath world.environment

/-- The path of the file of connections that goes with new settings. -/
def newConnections (world : World) : String :=
  sources.connectionsPath .usual (sources.newSettings world)

/-- A machine after it was remarked where the two files are. -/
def announced (presentation : Presentation) (world after : World) : World :=
  presentation.noted ("Connections file:   " ++ sources.newConnections world)
    (presentation.noted ("Settings written to " ++ sources.newSettings world) after)

/-- The ways in which new settings may be asked for. -/
inductive Initializes (presentation : Presentation) (force : Bool) (world : World) :
    Except Failure Unit → World → Prop
  /-- Something stands where the settings would, and may not be replaced. -/
  | refused : force = false → world.disk.node? (sources.newSettings world) ≠ none →
      Initializes presentation force world (.error (.settingsExist (sources.newSettings world))) world
  /-- The settings cannot be saved. -/
  | unsaved {error : StoreError} {after : World} :
      force = true ∨ world.disk.node? (sources.newSettings world) = none →
      (Settings.usual.save (sources.newSettings world) :
        StateM World (Except StoreError Unit)).run world = (.error error, after) →
      Initializes presentation force world
        (.error (Failure.ofStore (usualSettingsPath world.environment) error)) after
  /-- The settings are saved, and there are connections already. -/
  | kept {saved : World} :
      force = true ∨ world.disk.node? (sources.newSettings world) = none →
      (Settings.usual.save (sources.newSettings world) :
        StateM World (Except StoreError Unit)).run world = (.ok (), saved) →
      saved.disk.node? (sources.newConnections world) ≠ none →
      Initializes presentation force world (.ok ()) (sources.announced presentation world saved)
  /-- The settings are saved, and the file of connections cannot be made. -/
  | unmade {saved after : World} {error : StoreError} :
      force = true ∨ world.disk.node? (sources.newSettings world) = none →
      (Settings.usual.save (sources.newSettings world) :
        StateM World (Except StoreError Unit)).run world = (.ok (), saved) →
      saved.disk.node? (sources.newConnections world) = none →
      (Registry.empty.save (sources.newConnections world) :
        StateM World (Except StoreError Unit)).run saved = (.error error, after) →
      Initializes presentation force world
        (.error (Failure.ofStore (usualSettingsPath world.environment) error)) after
  /-- The settings are saved, and a file of connections is made. -/
  | made {saved after : World} :
      force = true ∨ world.disk.node? (sources.newSettings world) = none →
      (Settings.usual.save (sources.newSettings world) :
        StateM World (Except StoreError Unit)).run world = (.ok (), saved) →
      saved.disk.node? (sources.newConnections world) = none →
      (Registry.empty.save (sources.newConnections world) :
        StateM World (Except StoreError Unit)).run saved = (.ok (), after) →
      Initializes presentation force world (.ok ()) (sources.announced presentation world after)

/-- New settings are saved where they may be, and then the file of connections, where it is missing. -/
theorem outcome_init (presentation : Presentation) (force : Bool) (world : World) :
    outcome (runConfigInit sources presentation force) world =
      if (world.disk.node? (sources.newSettings world)).isSome && !force then
        (.error (.settingsExist (sources.newSettings world)), world)
      else match (Settings.usual.save (sources.newSettings world) :
          StateM World (Except StoreError Unit)).run world with
      | (.error error, after) =>
        (.error (Failure.ofStore (usualSettingsPath world.environment) error), after)
      | (.ok _, saved) =>
        if (saved.disk.node? (sources.newConnections world)).isSome then
          (.ok (), sources.announced presentation world saved)
        else match (Registry.empty.save (sources.newConnections world) :
            StateM World (Except StoreError Unit)).run saved with
        | (.error error, after) =>
          (.error (Failure.ofStore (usualSettingsPath world.environment) error), after)
        | (.ok _, after) => (.ok (), sources.announced presentation world after) := by
  -- The steps are taken one by one, and each may be the last.
  unfold runConfigInit
  rw [outcome_bind, outcome_environment]
  simp only [outcome_bind, outcome_isThere]
  rw [← newSettings]
  cases (world.disk.node? (sources.newSettings world)).isSome && !force with
  | true => rfl
  | false =>
    simp only [Bool.false_eq_true, if_false, outcome_bind, outcome_orFail, outcome_isThere]
    rw [← newConnections]
    rcases (Settings.usual.save (sources.newSettings world) :
      StateM World (Except StoreError Unit)).run world with ⟨result, saved⟩
    cases result with
    | error error => rfl
    | ok _ =>
      simp only [Except.mapError]
      cases (saved.disk.node? (sources.newConnections world)).isSome with
      | true => simp [announced]
      | false =>
        simp only [Bool.not_false, if_true, Bool.false_eq_true, if_false, outcome_bind, outcome_orFail,
          Presentation.outcome_remark]
        rcases (Registry.empty.save (sources.newConnections world) :
          StateM World (Except StoreError Unit)).run saved with ⟨result, after⟩
        cases result with
        | error error => rfl
        | ok _ => rfl

/-- Asking for new settings goes one of the ways. -/
theorem initializes (presentation : Presentation) (force : Bool) (world : World) :
    sources.Initializes presentation force world
      (outcome (runConfigInit sources presentation force) world).1
      (outcome (runConfigInit sources presentation force) world).2 := by
  rw [outcome_init]
  cases stops : (world.disk.node? (sources.newSettings world)).isSome && !force with
  | true =>
    rw [if_pos rfl]
    simp only [Bool.and_eq_true, Bool.not_eq_true'] at stops
    exact .refused stops.2 (Option.isSome_iff_ne_none.mp stops.1)
  | false =>
    rw [if_neg Bool.false_ne_true]
    have allowed : force = true ∨ world.disk.node? (sources.newSettings world) = none := by
      cases force with
      | true => exact .inl rfl
      | false => exact .inr (by simpa using stops)
    rcases stored : (Settings.usual.save (sources.newSettings world) :
      StateM World (Except StoreError Unit)).run world with ⟨result, saved⟩
    cases result with
    | error error => exact .unsaved allowed stored
    | ok _ =>
      simp only []
      cases there : (saved.disk.node? (sources.newConnections world)).isSome with
      | true => exact .kept allowed stored (Option.isSome_iff_ne_none.mp there)
      | false =>
        rw [if_neg Bool.false_ne_true]
        have missing := Option.isSome_eq_false_iff.mp there
        rcases made : (Registry.empty.save (sources.newConnections world) :
          StateM World (Except StoreError Unit)).run saved with ⟨result, after⟩
        cases result with
        | error error => exact .unmade allowed stored (by simpa using missing) made
        | ok _ => exact .made allowed stored (by simpa using missing) made

/-! ### What is kept, and what is loaded -/

/-- Announcing leaves the disk alone. -/
@[simp] theorem announced_disk (presentation : Presentation) (world after : World) :
    (sources.announced presentation world after).disk = after.disk := by
  rw [announced, Presentation.noted_disk, Presentation.noted_disk]

/-- The two files as they are shown; settings that cannot be loaded count as the usual ones. -/
def filePaths (world : World) : FilePaths :=
  let settings := match Settings.loaded world (sources.newSettings world) with
    | .ok settings => settings
    | .error _ => .usual
  let connections := sources.connectionsPath settings (sources.newSettings world)
  ⟨sources.newSettings world, (world.disk.node? (sources.newSettings world)).isSome,
    connections, (world.disk.node? connections).isSome⟩

variable {sources} {presentation : Presentation} {force : Bool} {world after : World}
  {result : Except Failure Unit}

/-- The directories stay, and the working directory with them. -/
theorem Initializes.grows (course : sources.Initializes presentation force world result after) :
    world.disk.Grows after.disk := by
  cases course with
  | refused => exact .refl _
  | unsaved _ failed => exact (Settings.save_saves failed).1.grows
  | kept _ stored =>
    rw [announced_disk]
    exact (Settings.save_saves stored).1.grows
  | unmade _ stored _ failed =>
    exact (Settings.save_saves stored).1.grows.trans (Registry.save_saves failed).1.grows
  | made _ stored _ made =>
    rw [announced_disk]
    exact (Settings.save_saves stored).1.grows.trans (Registry.save_saves made).1.grows

/-- What stands at the path of the connections stays there, as the settings go to another place. -/
theorem Initializes.keeps (course : sources.Initializes presentation force world result after)
    (apart : world.disk.named (sources.newConnections world) ≠
      world.disk.named (sources.newSettings world))
    {node : Node} (there : world.disk.node? (sources.newConnections world) = some node) :
    after.disk.node? (sources.newConnections world) = some node := by
  -- It is still there once the settings are saved, and then nothing is put in its place.
  have stays {saved : World} {result : Except StoreError Unit}
      (stored : (Settings.usual.save (sources.newSettings world) :
        StateM World (Except StoreError Unit)).run world = (result, saved)) :
      saved.disk.node? (sources.newConnections world) = some node :=
    (Settings.save_saves stored).1.node? apart there
  cases course with
  | refused => exact there
  | unsaved _ failed => exact stays failed
  | kept _ stored =>
    rw [announced_disk]
    exact stays stored
  | unmade _ stored missing => cases missing.symm.trans (stays stored)
  | made _ stored missing => cases missing.symm.trans (stays stored)

/-- What stands at any place other than those of the two files stays there. -/
theorem Initializes.spares (course : sources.Initializes presentation force world result after)
    {place : Place} {node : Node} (other : place ≠ world.disk.named (sources.newSettings world))
    (another : place ≠ world.disk.named (sources.newConnections world))
    (there : world.disk.at? place = some node) : after.disk.at? place = some node := by
  have stays {saved : World} {result : Except StoreError Unit}
      (stored : (Settings.usual.save (sources.newSettings world) :
        StateM World (Except StoreError Unit)).run world = (result, saved)) :
      saved.disk.at? place = some node :=
    (Settings.save_saves stored).1.at? other there
  -- More directories do not change which place the path of the connections names.
  have again {saved last : World} {result result' : Except StoreError Unit}
      (stored : (Settings.usual.save (sources.newSettings world) :
        StateM World (Except StoreError Unit)).run world = (result, saved))
      (made : (Registry.empty.save (sources.newConnections world) :
        StateM World (Except StoreError Unit)).run saved = (result', last)) :
      last.disk.at? place = some node := by
    refine (Registry.save_saves made).1.at? ?_ (stays stored)
    rw [(Settings.save_saves stored).1.grows.named]
    exact another
  cases course with
  | refused => exact there
  | unsaved _ failed => exact stays failed
  | kept _ stored =>
    rw [announced_disk]
    exact stays stored
  | unmade _ stored _ failed => exact again stored failed
  | made _ stored _ made =>
    rw [announced_disk]
    exact again stored made

/-- The usual settings can be written. -/
theorem usual_holdable : Settings.usual.Holdable :=
  ⟨by decide, by decide, by rfl, by rfl⟩

/-- Where new settings were asked for with success, they stand at their path. -/
theorem Initializes.stands (course : sources.Initializes presentation force world (.ok ()) after)
    (apart : world.disk.named (sources.newConnections world) ≠
      world.disk.named (sources.newSettings world))
    {text : String} (text_ : Settings.usual.write? = some text) :
    after.disk.locate (sources.newSettings world) =
        .ok (world.disk.named (sources.newSettings world)) ∧
      after.disk.at? (world.disk.named (sources.newSettings world)) =
        some (.file (Text.bytes text.toList)) := by
  cases course with
  | kept _ stored =>
    have stands := Settings.saved_stands text_ stored
    rw [(Settings.save_saves stored).1.grows.named] at stands
    rw [announced_disk]
    exact stands
  | made _ stored _ made =>
    -- The file of connections is put at another place, where the path of the settings does not lead.
    obtain ⟨located, stands⟩ := Settings.saved_stands text_ stored
    have grows := (Settings.save_saves stored).1.grows
    have saves := (Registry.save_saves made).1
    rw [grows.named] at located stands
    have kept := saves.at? (by rw [grows.named]; exact apart.symm) stands
    rw [announced_disk]
    exact ⟨saves.grows.locate located (kept.trans stands.symm), kept⟩

/-- The usual settings are loaded where they were written anew. -/
theorem Initializes.loads (course : sources.Initializes presentation force world (.ok ()) after)
    (apart : world.disk.named (sources.newConnections world) ≠
      world.disk.named (sources.newSettings world))
    (reachable : world.disk.Reachable (sources.newSettings world))
    {environment : List (String × String)} (unset : Settings.Unset environment) :
    Settings.loaded { after with environment := environment } (sources.newSettings world) =
      .ok .usual := by
  obtain ⟨located, stands⟩ := course.stands apart (Settings.write?_eq usual_holdable)
  obtain ⟨found, first, bytes⟩ :=
    Disk.settingsFile?_standing (course.grows.reachable reachable) located stands
  exact @Settings.loaded_found _ usual_holdable (by decide)
    { after with environment := environment } unset _ _ _ first (Settings.write?_eq usual_holdable) bytes

/-- Where new settings were asked for with success, something stands at the path of the connections;
a file that was made there holds no connections. -/
theorem Initializes.connects (course : sources.Initializes presentation force world (.ok ()) after)
    (apart : world.disk.named (sources.newConnections world) ≠
      world.disk.named (sources.newSettings world)) :
    after.disk.node? (sources.newConnections world) ≠ none ∧
      (world.disk.at? (world.disk.named (sources.newConnections world)) = none →
        ∀ content, after.disk.node? (sources.newConnections world) = some (.file content) →
          Registry.loaded after.disk (sources.newConnections world) = .ok .empty) := by
  cases course with
  | kept _ stored there =>
    rw [announced_disk]
    refine ⟨there, ?_⟩
    intro vacant content file
    -- Saving the settings puts no file at the place of the connections.
    obtain ⟨-, stands⟩ := Disk.at?_named file
    have saves := (Settings.save_saves stored).1
    rw [saves.grows.named] at stands
    cases vacant.symm.trans ((saves.files _ content apart).mp stands)
  | made _ stored _ made =>
    rw [announced_disk]
    obtain ⟨content, loads, -⟩ := Registry.saved_file Registry.empty_sound made
    refine ⟨?_, fun _ _ _ => loads⟩
    rw [Disk.read_eq_ok_iff.mp content]
    simp

/-- New settings are made where this is allowed and the two files can be saved, one after the other. -/
theorem Initializes.succeeds_iff
    (course : sources.Initializes presentation force world result after) :
    result = .ok () ↔
      (force = true ∨ world.disk.node? (sources.newSettings world) = none) ∧
        world.CanSave (sources.newSettings world) ∧
        ∀ saved, (Settings.usual.save (sources.newSettings world) :
          StateM World (Except StoreError Unit)).run world = (.ok (), saved) →
            saved.disk.node? (sources.newConnections world) ≠ none ∨
              saved.CanSave (sources.newConnections world) := by
  have able := Settings.canSave_iff (Settings.write?_eq usual_holdable) (sources.newSettings world) world
  cases course with
  | refused gentle there =>
    refine iff_of_false (fun ended => nomatch ended) ?_
    intro ⟨allowed, _⟩
    exact allowed.elim (by simp [gentle]) there
  | unsaved _ failed =>
    refine iff_of_false (fun ended => nomatch ended) ?_
    intro ⟨_, canSave, _⟩
    obtain ⟨saved, stored⟩ := able.mp canSave
    cases failed.symm.trans stored
  | kept allowed stored there =>
    refine iff_of_true rfl ⟨allowed, able.mpr ⟨_, stored⟩, ?_⟩
    intro saved again
    cases stored.symm.trans again
    exact .inl there
  | unmade allowed stored missing failed =>
    refine iff_of_false (fun ended => nomatch ended) ?_
    intro ⟨_, _, rest⟩
    obtain there | canSave := rest _ stored
    · exact there missing
    · obtain ⟨last, made⟩ := (Registry.empty.canSave_iff _ _).mp canSave
      cases failed.symm.trans made
  | made allowed stored missing made =>
    refine iff_of_true rfl ⟨allowed, able.mpr ⟨_, stored⟩, ?_⟩
    intro saved again
    cases stored.symm.trans again
    exact .inr ((Registry.empty.canSave_iff _ _).mpr ⟨_, made⟩)

/-- What asking for new settings comes to, whatever the two files held before. -/
structure Protects (sources : Sources) (force : Bool) (world : World) (result : Except Failure Unit)
    (after : World) : Prop where
  /-- Something at the path of the settings is left alone unless it may be replaced. -/
  refused : force = false → world.disk.node? (sources.newSettings world) ≠ none →
    result = .error (.settingsExist (sources.newSettings world)) ∧ after = world
  /-- What stands at the path of the connections is left as it is, however this ends. -/
  kept : ∀ node, world.disk.node? (sources.newConnections world) = some node →
    after.disk.node? (sources.newConnections world) = some node
  /-- What stands anywhere but at the places of the two files is left as it is. -/
  spared : ∀ place node, place ≠ world.disk.named (sources.newSettings world) →
    place ≠ world.disk.named (sources.newConnections world) →
      world.disk.at? place = some node → after.disk.at? place = some node
  /-- What the settings file holds does not stand in the way. -/
  succeeds : result = .ok () ↔
    (force = true ∨ world.disk.node? (sources.newSettings world) = none) ∧
      world.CanSave (sources.newSettings world) ∧
      ∀ saved, (Settings.usual.save (sources.newSettings world) :
        StateM World (Except StoreError Unit)).run world = (.ok (), saved) →
          saved.disk.node? (sources.newConnections world) ≠ none ∨
            saved.CanSave (sources.newConnections world)
  /-- The usual settings are loaded afterwards wherever no variable gives another one. -/
  repaired : result = .ok () → world.disk.Reachable (sources.newSettings world) →
    ∀ environment, Settings.Unset environment →
      (Settings.load (sources.newSettings world) :
        StateM World (Except StoreError Settings)).run { after with environment := environment } =
          (.ok .usual, { after with environment := environment })
  /-- Something stands at the path of the connections afterwards. -/
  connected : result = .ok () → after.disk.node? (sources.newConnections world) ≠ none
  /-- A file that was made there holds no connections. -/
  created : result = .ok () →
    world.disk.at? (world.disk.named (sources.newConnections world)) = none →
      ∀ content, after.disk.node? (sources.newConnections world) = some (.file content) →
        (Registry.load (sources.newConnections world) :
          StateM World (Except StoreError Registry)).run after = (.ok .empty, after)

/-- Asking for new settings protects and repairs wherever the two files are two. -/
theorem Initializes.protects (course : sources.Initializes presentation force world result after)
    (apart : world.disk.named (sources.newConnections world) ≠
      world.disk.named (sources.newSettings world)) :
    sources.Protects force world result after where
  refused gentle there := by
    cases course with
    | refused => exact ⟨rfl, rfl⟩
    -- Every other way needs leave to replace what stands there.
    | unsaved allowed | kept allowed | unmade allowed | made allowed =>
      exact absurd allowed (not_or.mpr ⟨by simp [gentle], there⟩)
  kept node there := course.keeps apart there
  spared place node other another there := course.spares other another there
  succeeds := course.succeeds_iff
  repaired ended reachable environment unset := by
    subst ended
    rw [Settings.load_run_eq, course.loads apart reachable unset]
  connected ended := by
    subst ended
    exact (course.connects apart).1
  created ended vacant content file := by
    subst ended
    rw [Registry.load_run_eq, (course.connects apart).2 vacant content file]

/-- The paths of the files are shown whatever the settings file holds. -/
theorem outcome_paths (presentation : Presentation) (world : World) :
    outcome (runConfigPaths sources presentation) world =
      (.ok (), presentation.shown ((sources.filePaths world).view.text presentation.format) world) := by
  unfold runConfigPaths
  simp only [outcome_bind, outcome_environment]
  rw [← newSettings, Settings.outcome_load]
  simp only [filePaths]
  cases Settings.loaded world (sources.newSettings world) with
  | ok settings => simp only [outcome_isThere, Presentation.outcome_putView]
  | error error => simp only [outcome_isThere, Presentation.outcome_putView]

end Sources

/-- The paths of the files are shown whatever the settings file holds. Asking for new settings leaves
alone what stands at their path, unless it may be replaced, and always what stands at the path of the
connections. It succeeds wherever the two files can be saved, the usual settings are then loaded
from a path that can be reached, and a file of connections that was made holds none. -/
theorem Invocation.config_protects (connect : Connect (StateM World)) (sources : Sources)
    (presentation : Presentation) (world : World) :
    outcome (Invocation.run connect ⟨.config .paths, sources, presentation⟩) world =
      (.ok (), presentation.shown ((sources.filePaths world).view.text presentation.format) world) ∧
    ∀ force, world.disk.named (sources.newConnections world) ≠
        world.disk.named (sources.newSettings world) →
      sources.Protects force world
        (outcome (Invocation.run connect ⟨.config (.init force), sources, presentation⟩) world).1
        (outcome (Invocation.run connect ⟨.config (.init force), sources, presentation⟩) world).2 :=
  ⟨Sources.outcome_paths presentation world,
    fun force apart => (sources.initializes presentation force world).protects apart⟩

/-- A machine with a broken settings file and a file of connections, in a working directory. -/
def brokenWorld : World :=
  ⟨⟨[(["work"], .directory), (["work", "app.toml"], .file [0xFF]),
    (["work", "connections.json"], .file [0x5B, 0x5D])], ["work"]⟩, [("HOME", "/work")], ⟨0⟩, "", ""⟩

/-- The broken file is left alone at first, and then replaced beside the connections. -/
theorem Invocation.config_protects_broken :
    outcome (Invocation.run (Transport.connect Source.fetch)
      ⟨.config (.init false), { settings := some "app.toml" }, {}⟩) brokenWorld =
        (.error (.settingsExist "app.toml"), brokenWorld) ∧
    ∃ after, outcome (Invocation.run (Transport.connect Source.fetch)
      ⟨.config (.init true), { settings := some "app.toml" }, {}⟩) brokenWorld = (.ok (), after) ∧
      after.disk.node? "connections.json" = some (.file [0x5B, 0x5D]) ∧
      (Settings.load "app.toml" : StateM World (Except StoreError Settings)).run
        { after with environment := [] } = (.ok .usual, { after with environment := [] }) := by
  have rooted : brokenWorld.disk.Rooted := by
    refine ⟨fun name member => ?_, fun name member => ?_, fun count => ?_⟩
    · rw [List.mem_singleton.mp member]
      exact ⟨by decide, by decide, by decide, by decide⟩
    · rw [List.mem_singleton.mp member]
      decide
    · cases count with
      | zero => rfl
      | succ count => rw [List.take_of_length_le (by simp [brokenWorld])]; rfl
  obtain ⟨-, protects⟩ := Invocation.config_protects (Transport.connect Source.fetch)
    { settings := some "app.toml" } {} brokenWorld
  have apart : brokenWorld.disk.named "connections.json" ≠ brokenWorld.disk.named "app.toml" := by
    decide
  have first := (protects false apart).refused rfl (by decide)
  refine ⟨Prod.ext first.1 first.2, ?_⟩
  have second := protects true apart
  have done := second.succeeds.mpr ⟨.inl rfl, ⟨_, rfl, by decide, ["work", "app.toml"], by rfl, by decide⟩, ?_⟩
  · exact ⟨_, Prod.ext done rfl, second.kept _ (by rfl), second.repaired done
      (.inr ⟨rooted, by decide⟩) [] (by simp [Settings.Unset])⟩
  · intro saved stored
    have there : saved.disk.node? "connections.json" = some (.file [0x5B, 0x5D]) :=
      (Settings.save_saves stored).1.node? apart (by rfl)
    exact .inl fun missing => by cases missing.symm.trans there

/-! ### Where the full name is too long -/

/-- A path of two names whose full name in the working directory is too long for the system. -/
def farPath : String := Path.slashed "tmp" 4086 "c"

/-- The settings file that stands under the same path above the working directory. -/
def farText : List Char :=
  Toml.documentText [Settings.textLine "timeout_secs" "9" Settings.timeoutKey_bare] []

/-- A machine with such a file, and nothing in the working directory. -/
def farWorld : World :=
  ⟨⟨[(["work"], .directory), (["tmp"], .directory), (["tmp", "c"], .file (Text.bytes farText))],
    ["work"]⟩, [("HOME", "/work")], ⟨0⟩, "", ""⟩

/-- The path is relative. -/
theorem isAbsolute_farPath : Path.isAbsolute farPath = false := by
  rw [Path.isAbsolute, farPath, Path.toList_slashed]
  rfl

/-- The names of the path. -/
theorem names_farPath : Path.names farPath = ["tmp", "c"] := by
  rw [farPath, Path.names_slashed (by decide) (by decide)]
  decide

/-- The path may name a file. -/
theorem wantsDirectory_farPath : Path.wantsDirectory farPath = false :=
  Path.wantsDirectory_slashed Settings.endsPlain_letter "tmp" 4086

/-- The path names something in a directory. -/
theorem parent?_farPath : Path.parent? farPath = some "tmp" :=
  Path.parent?_slashed Settings.endsPlain_letter (by decide) (by decide) (by decide) 4085

/-- The system takes the path. -/
theorem accepted_farPath : Disk.Accepted farPath :=
  Disk.accepted_slashed 4085 (by unfold Disk.Accepted; decide) (by unfold Disk.Accepted; decide)
    (by decide) (by decide) (by decide)

/-- The path is looked for in the working directory, and then in the root. -/
theorem upward_farPath : Path.upward "/work" farPath =
    [Path.join "/work" farPath, Path.join "/" farPath] := by
  rw [Path.upward, isAbsolute_farPath]
  rfl

/-- The size of the path. -/
theorem utf8ByteSize_farPath : farPath.utf8ByteSize = 4090 := by
  rw [farPath, Path.utf8ByteSize_slashed]
  decide

/-- From the working directory the path is too long. -/
theorem long_farPath : 4096 ≤ (Path.join "/work" farPath).utf8ByteSize := by
  have directory : ("/work" ++ "/").utf8ByteSize = 6 := by decide
  rw [Path.join, isAbsolute_farPath]
  show 4096 ≤ ("/work" ++ "/" ++ farPath).utf8ByteSize
  rw [String.utf8ByteSize_append, directory, utf8ByteSize_farPath]

/-- The path in the root. -/
theorem join_farPath : Path.join "/" farPath = Path.ofNames ([] ++ [farPath]) := by
  have root : Path.ofNames [] = "/" := by decide
  have joined := @Path.join_ofNames [] (by simp) farPath isAbsolute_farPath
  rw [root] at joined
  exact joined

/-- From the root the path leads to its two names. -/
theorem locate_farPath {disk : Disk} (directory : disk.at? ["tmp"] = some .directory) :
    disk.locate (Path.join "/" farPath) = .ok ["tmp", "c"] := by
  have names : Path.names (Path.join "/" farPath) = ["tmp", "c"] := by
    rw [join_farPath, Path.names_ofNames_concat (by simp), names_farPath]
    rfl
  have start : disk.start (Path.join "/" farPath) = [] := by
    rw [Disk.start, join_farPath, Path.isAbsolute, Path.ofNames, String.toList_append]
    simp
  -- The full name in the root is one byte longer than the path.
  have accepted : Disk.Accepted (Path.join "/" farPath) := by
    have root : Disk.Rooted ⟨[], []⟩ := ⟨by simp, by simp, fun count => by simp; rfl⟩
    have full : Disk.fullPath ⟨[], []⟩ farPath = Path.ofNames ([] ++ [farPath]) :=
      @Path.join_ofNames [] (by simp) farPath isAbsolute_farPath
    have size : (Disk.fullPath ⟨[], []⟩ farPath).utf8ByteSize = 4091 := by
      have slash : "/".utf8ByteSize = 1 := by decide
      rw [full, Path.ofNames, String.utf8ByteSize_append, slash, List.nil_append, Text.joinWith,
        utf8ByteSize_farPath]
    rw [join_farPath, ← full]
    exact Disk.accepted_fullPath root accepted_farPath isAbsolute_farPath (by rw [size]; decide)
  refine Disk.locate_eq_ok_iff.mpr ⟨accepted, ?_, fun _ => ?_⟩
  · rw [start, names, Disk.follow]
    simp [directory, Disk.follow]
  · rw [join_farPath]
    exact Path.wantsDirectory_ofNames accepted_farPath.2.1 [] wantsDirectory_farPath

/-- The path leads nowhere from the working directory at first. -/
theorem node?_farPath : farWorld.disk.node? farPath = none := by
  cases there : farWorld.disk.node? farPath with
  | none => rfl
  | some node =>
    obtain ⟨-, leads, -⟩ := Disk.locate_eq_ok_iff.mp (Disk.at?_named there).1
    rw [names_farPath, Disk.start, isAbsolute_farPath] at leads
    cases leads

/-- A path that is given is the path of new settings. -/
theorem Sources.newSettings_given (path : String) (world : World) :
    ({ settings := some path } : Sources).newSettings world = path := rfl

/-- The connections that go with the path. -/
theorem newConnections_farPath :
    ({ settings := some farPath } : Sources).newConnections farWorld = "tmp/connections.json" := by
  rw [Sources.newConnections, Sources.newSettings_given, Sources.connectionsPath,
    Settings.connectionsPath, parent?_farPath]
  decide

/-- The machine once the directory of the path is made. -/
def farMade : Disk :=
  ⟨[(["work"], .directory), (["tmp"], .directory), (["tmp", "c"], .file (Text.bytes farText)),
    (["work", "tmp"], .directory)], ["work"]⟩

/-- The directory of the path is made in the working directory. -/
theorem withParent_farPath : farWorld.disk.withParent farPath = .ok farMade := by
  rw [Disk.withParent, parent?_farPath]
  rfl

/-- Then the path leads to a file in that directory. -/
theorem locate_farMade : farMade.locate farPath = .ok ["work", "tmp", "c"] := by
  refine Disk.locate_eq_ok_iff.mpr ⟨accepted_farPath, ?_, fun _ => wantsDirectory_farPath⟩
  rw [names_farPath, Disk.start, isAbsolute_farPath]
  rfl

/-- New settings can be saved under the path. -/
theorem canSave_farPath : farWorld.CanSave farPath := by
  refine canSave_iff_withParent.mpr ⟨farMade, withParent_farPath, wantsDirectory_farPath, _,
    locate_farMade, ?_⟩
  simp [farMade, Disk.at?, List.lookup_cons]

/-- The connections that go with them can be saved in the directory that was made. -/
theorem canSave_farMade (content : List UInt8) :
    World.CanSave { farWorld with disk := farMade.put ["work", "tmp", "c"] (.file content) }
      "tmp/connections.json" := by
  refine canSave_iff_withParent.mpr ⟨_, rfl, by decide, ["work", "tmp", "connections.json"], rfl, ?_⟩
  simp [farMade, Disk.at?, Disk.put, List.lookup_cons]

/-- New settings are made under the path, although they are not found there. -/
theorem far_succeeds : ∃ after,
    outcome (runConfigInit { settings := some farPath } {} false) farWorld = (.ok (), after) ∧
      Sources.Initializes { settings := some farPath } {} false farWorld (.ok ()) after := by
  have course := Sources.initializes { settings := some farPath } {} false farWorld
  rcases ended : outcome (runConfigInit { settings := some farPath } {} false) farWorld with
    ⟨result, after⟩
  rw [ended] at course
  have able := course.succeeds_iff
  rw [Sources.newSettings_given, newConnections_farPath] at able
  have success := able.mpr ⟨.inr node?_farPath, canSave_farPath, fun saved stored => .inr ?_⟩
  · cases success
    exact ⟨after, rfl, course⟩
  · obtain ⟨made, disk, parent, written, rfl⟩ :=
      (Settings.save_eq_ok_iff (Settings.write?_eq Sources.usual_holdable)).mp stored
    cases parent.symm.trans withParent_farPath
    obtain ⟨place, located, -, -, rfl⟩ := Disk.write_eq_ok_iff.mp written
    cases located.symm.trans locate_farMade
    exact canSave_farMade _

/-- The settings that the other file gives. -/
theorem farText_loads {world : World} {path found : String}
    (first : world.disk.settingsFile? path = some found)
    (bytes : world.disk.read found = .ok (Text.bytes farText)) :
    (Settings.load path : StateM World (Except StoreError Settings)).run
        { world with environment := [] } =
      (.ok { timeoutSeconds := 9 }, { world with environment := [] }) := by
  have whole : Toml.parse (.ofList farText) = .ok (.table [("timeout_secs", .text "9")]) :=
    Toml.parse_documentText (by simp) (by simp)
  have holds : world.disk.Holds path (.table [("timeout_secs", .text "9")]) :=
    .file first (by rw [String.toList_ofList]; exact bytes) whole
  rw [Settings.load_run_eq, Settings.loaded, holds.givenFile_eq]
  -- The layer is only there for errors.
  generalize world.disk.settingsLayer path = layer
  rfl

/-- Where the other file still stands, it is the one that is found under the path. -/
theorem settingsFile?_farPath {disk : Disk} (working : disk.working = ["work"])
    (directory : disk.at? ["tmp"] = some .directory) {content : List UInt8}
    (stands : disk.at? ["tmp", "c"] = some (.file content)) :
    disk.settingsFile? farPath = some (Path.join "/" farPath) := by
  have root : Path.ofNames disk.working = "/work" := by
    rw [working]
    decide
  have kind : (disk.node? (Path.join "/" farPath)).map Node.kind = some .file := by
    rw [Disk.node?, locate_farPath directory]
    simp [stands, Node.kind]
  rw [Disk.settingsFile?, root, upward_farPath, Disk.firstFile?, List.find?_cons_of_neg,
    List.find?_cons_of_pos]
  · rw [kind]
    decide
  · rw [Disk.node?_long long_farPath]
    decide

/-- Settings that were written anew are not loaded from their path where its full name is too long and
another file stands under the same path further up. -/
theorem Invocation.config_init_far :
    farWorld.disk.named ({ settings := some farPath : Sources }.newConnections farWorld) ≠
      farWorld.disk.named ({ settings := some farPath : Sources }.newSettings farWorld) ∧
    ∃ after, outcome (Invocation.run (Transport.connect Source.fetch)
      ⟨.config (.init false), { settings := some farPath }, {}⟩) farWorld = (.ok (), after) ∧
      (Settings.load farPath : StateM World (Except StoreError Settings)).run
          { after with environment := [] } =
        (.ok { timeoutSeconds := 9 }, { after with environment := [] }) ∧
      Settings.usual ≠ { timeoutSeconds := 9 } := by
  have settings : farWorld.disk.named farPath = ["work", "tmp", "c"] := by
    rw [Disk.named, names_farPath, Disk.start, isAbsolute_farPath]
    rfl
  have connections : farWorld.disk.named
      (({ settings := some farPath } : Sources).newConnections farWorld) =
        ["work", "tmp", "connections.json"] := by
    rw [newConnections_farPath]
    decide
  have own := Sources.newSettings_given farPath farWorld
  obtain ⟨after, ended, course⟩ := far_succeeds
  -- The file further up is still there, and the new one is out of reach.
  have other : ["tmp", "c"] ≠ farWorld.disk.named
      (({ settings := some farPath } : Sources).newSettings farWorld) := by
    rw [own, settings]
    decide
  have another : ["tmp", "c"] ≠ farWorld.disk.named
      (({ settings := some farPath } : Sources).newConnections farWorld) := by
    rw [connections]
    decide
  have standing : farWorld.disk.at? ["tmp", "c"] = some (.file (Text.bytes farText)) := rfl
  have stands := course.spares other another standing
  have directory := course.grows.kept ["tmp"] rfl
  have loads := farText_loads (settingsFile?_farPath course.grows.working directory stands)
    (Disk.read_of_at? (locate_farPath directory) stands)
  refine ⟨?_, after, ended, loads, ?_⟩
  · rw [connections, own, settings]
    decide
  · intro same
    have seconds := congrArg Settings.timeoutSeconds same
    cases seconds

end Placard
