import Placard.Proofs.Machine.Rooted
import Placard.Proofs.Registry.Filed
import Placard.Proofs.Settings.Written

/-! Settings in files: where a file is looked for, what is loaded from it, and what saving leaves. -/

namespace Placard

/-! ### Looking for a file -/

/-- The first of several paths at which a file stands. -/
def Disk.firstFile? (disk : Disk) (paths : List String) : Option String :=
  paths.find? fun path => (disk.node? path).map Node.kind == some .file

/-- The file that settings are read from: at the path, or under its name in a directory further up. -/
def Disk.settingsFile? (disk : Disk) (path : String) : Option String :=
  disk.firstFile? (Path.upward (Path.ofNames disk.working) path)

/-- A path leads to the place of its full name, which the system takes. -/
def Disk.Reachable (disk : Disk) (path : String) : Prop :=
  Path.isAbsolute path = true ∨ disk.Rooted ∧ (disk.fullPath path).utf8ByteSize < 4096

/-- Making the directory of a file keeps the directories that are there. -/
theorem Disk.withParent_grows {disk made : Disk} {path : String}
    (success : disk.withParent path = .ok made) : disk.Grows made := by
  unfold Disk.withParent at success
  split at success
  · exact makeDirectories_grows success
  · cases success
    exact .refl _

/-- What can be reached stays so when directories are made. -/
theorem Disk.Grows.reachable {disk made : Disk} (grows : disk.Grows made) {path : String}
    (reachable : disk.Reachable path) : made.Reachable path := by
  refine reachable.imp_right fun ⟨rooted, short⟩ => ⟨grows.rooted rooted, ?_⟩
  rw [fullPath, grows.working]
  exact short

/-- A relative path is looked for by its full name first. -/
theorem Disk.upward_fullPath {disk : Disk} (rooted : disk.Rooted) {path : String}
    (relative : Path.isAbsolute path = false) :
    ∃ others, Path.upward (Path.ofNames disk.working) path = disk.fullPath path :: others := by
  rw [Path.upward, relative, Path.names_ofNames rooted.named]
  simp only [Bool.false_eq_true, if_false]
  rw [List.range_succ_eq_map, List.map_cons, Nat.sub_zero, List.take_length]
  exact ⟨_, rfl⟩

/-- A file that stands where a path leads is the first one that is found for the path. -/
theorem Disk.settingsFile?_standing {disk : Disk} {path : String} {place : Place}
    {content : List UInt8} (reachable : disk.Reachable path) (located : disk.locate path = .ok place)
    (stands : disk.at? place = some (.file content)) :
    ∃ found, disk.settingsFile? path = some found ∧ disk.read found = .ok content := by
  -- Whichever name leads to the place, the file is found and read there.
  have first {found : String} {others : List String} (leads : disk.locate found = .ok place) :
      disk.firstFile? (found :: others) = some found ∧ disk.read found = .ok content := by
    refine ⟨?_, read_of_at? leads stands⟩
    have kind : (disk.node? found).map Node.kind = some .file := by
      rw [node?, leads]
      simp [stands, Node.kind]
    rw [firstFile?, List.find?_cons_of_pos]
    rw [kind]
    rfl
  cases absolute : Path.isAbsolute path with
  | true =>
    obtain ⟨found, bytes⟩ := @first path [] located
    refine ⟨path, ?_, bytes⟩
    rw [settingsFile?, Path.upward, absolute, if_pos rfl, found]
  | false =>
    -- The full name is looked for first, and it leads to the same place.
    obtain ⟨rooted, short⟩ := reachable.resolve_left (by simp [absolute])
    have plain := (locate_eq_ok_iff.mp located).2.2 ⟨content, stands⟩
    have full := locate_fullPath rooted located (by rw [stands]; simp) plain absolute short
    obtain ⟨others, upward⟩ := upward_fullPath rooted absolute
    obtain ⟨found, bytes⟩ := @first _ others full
    exact ⟨_, by rw [settingsFile?, upward, found], bytes⟩

/-- A file that was written at a path is the first one that is found for the path. -/
theorem Disk.settingsFile?_written {disk after : Disk} {path : String} {content : List UInt8}
    (reachable : disk.Reachable path) (written : disk.write path content = .ok after) :
    ∃ found, after.settingsFile? path = some found ∧ after.read found = .ok content := by
  obtain ⟨place, again, stands⟩ := stands_of_write written
  exact settingsFile?_standing ((grows_write written).reachable reachable) again stands

namespace Settings

/-! ### Loading -/

/-- The values that a settings file on a disk gives; without a file, nothing is given. -/
def givenFile (disk : Disk) (path : String) : Except LoadError Given :=
  match disk.settingsFile? path with
  | none => .ok (.table .usual [])
  | some found =>
    let name := Path.seenFrom (Path.ofNames disk.working) found
    match disk.read found with
    | .error fault => .error (.unreadable name fault)
    | .ok content =>
      match Text.decode? content with
      | none => .error (.unreadable name .notUtf8)
      | some letters =>
        match Toml.parse (.ofList letters) with
        | .ok whole => .ok (.ofToml (.file name) whole)
        | .error (line, column) => .error (.badToml name line column)

/-- The settings of a file on a disk, and of the variables around it. -/
def loaded (world : World) (path : String) : Except StoreError Settings :=
  match givenFile world.disk path with
  | .error error => .error (.unloadable error)
  | .ok file => (ofLayers file (Variable.layer world.environment)).mapError fun problem =>
      .unloadable (.badValue problem)

/-- Looking for a file looks at the disk, and changes nothing. -/
theorem firstFile?_run (paths : List String) (world : World) :
    (firstFile? paths : StateM World (Option String)).run world =
      (world.disk.firstFile? paths, world) := by
  -- Whether a path leads to a file is a question to the disk, asked until one does.
  induction paths with
  | nil => rfl
  | cons path others ih =>
    have kind : (Machine.isFile path : StateM World Bool).run world =
        ((world.disk.node? path).map Node.kind == some .file, world) := rfl
    rw [firstFile?, StateT.run_bind, kind, Disk.firstFile?, List.find?_cons]
    cases (world.disk.node? path).map Node.kind == some .file with
    | true => rfl
    | false => exact ih

/-- Reading a settings file looks at the disk, and changes nothing. -/
theorem readFile_run (path : String) (world : World) :
    (readFile path : StateM World (Except LoadError Given)).run world =
      (givenFile world.disk path, world) := by
  -- Looking for the file and reading its text only look at the disk.
  have working : (Machine.working : StateM World String).run world =
      (Path.ofNames world.disk.working, world) := rfl
  rw [readFile, StateT.run_bind, working, id_bind_eq, StateT.run_bind, firstFile?_run, id_bind_eq,
    givenFile, Disk.settingsFile?]
  cases world.disk.firstFile? (Path.upward (Path.ofNames world.disk.working) path) with
  | none => rfl
  | some found =>
    simp only []
    rw [StateT.run_bind, readText_run_eq, id_bind_eq, Disk.readText]
    cases world.disk.read found with
    | error fault => rfl
    | ok content =>
      simp only []
      cases Text.decode? content with
      | none => rfl
      | some letters =>
        simp only []
        cases Toml.parse (.ofList letters) with
        | ok whole => rfl
        | error stop => rfl

/-- Loading looks at the disk and the variables, and changes nothing. -/
theorem load_run_eq (path : String) (world : World) :
    (load path : StateM World (Except StoreError Settings)).run world = (loaded world path, world) := by
  rw [load, StateT.run_bind, readFile_run, id_bind_eq, loaded]
  cases givenFile world.disk path with
  | error error => rfl
  | ok file => rfl

/-! ### Saving -/

/-- Saving makes the directory, then writes the text; where it fails, at most directories are new. -/
theorem save_run_eq (settings : Settings) (path : String) (world : World) :
    (settings.save path : StateM World (Except StoreError Unit)).run world =
      match world.disk.withParent path with
      | .error fault => (.error (.io fault), world)
      | .ok made =>
        match settings.write? with
        | none => (.error .unwritable, { world with disk := made })
        | some text =>
          match made.write path (Text.bytes text.toList) with
          | .error fault => (.error (.io fault), { world with disk := made })
          | .ok disk => (.ok (), { world with disk := disk }) := by
  -- The directory, the text and the file may each end it; what was made until then stays.
  rw [save, StateT.run_bind, id_bind_eq, makeParent_run]
  cases world.disk.withParent path with
  | error fault => rfl
  | ok made =>
    simp only []
    cases settings.write? with
    | none => rfl
    | some text =>
      simp only [StateT.run_bind]
      rw [writeText_run]
      cases made.write path (Text.bytes text.toList) with
      | error fault => rfl
      | ok disk => rfl

end Settings

end Placard
