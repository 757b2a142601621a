import Placard.Proofs.Machine.Directories
import Placard.Proofs.Registry.Persistence

/-! Loading and saving as functions of the disk: what they read, what they leave, and when they fail. -/

namespace Placard

/-! ### The directory of a file -/

/-- A disk with the directory of a file on it. -/
def Disk.withParent (disk : Disk) (path : String) : Except FileFault Disk :=
  match Path.parent? path with
  | some directory => disk.makeDirectories directory
  | none => .ok disk

/-- Making the directory of a file changes the disk, or nothing where it fails. -/
theorem makeParent_run (path : String) (world : World) :
    (makeParent path : StateM World (Except FileFault Unit)).run world =
      match world.disk.withParent path with
      | .ok disk => (.ok (), { world with disk := disk })
      | .error fault => (.error fault, world) := by
  unfold makeParent Disk.withParent
  cases Path.parent? path with
  | none => rfl
  | some directory => rfl

/-- Making the directory of a file changes no file. -/
theorem Disk.withParent_sameFiles {disk made : Disk} {path : String}
    (success : disk.withParent path = .ok made) : disk.SameFiles made := by
  unfold Disk.withParent at success
  split at success
  · exact makeDirectories_sameFiles success
  · cases success
    exact .refl _

/-- A file may be saved where its directory can be made and the file then be written. -/
theorem canSave_iff_withParent {world : World} {path : String} :
    world.CanSave path ↔ ∃ made, world.disk.withParent path = .ok made ∧ made.Writable path := by
  -- Making the directory as an action and making it on the disk are the same.
  unfold World.CanSave
  rw [makeParent_run]
  cases world.disk.withParent path with
  | error fault =>
    constructor
    · rintro ⟨_, ⟨⟩, _⟩
    · rintro ⟨_, ⟨⟩, _⟩
  | ok disk =>
    constructor
    · rintro ⟨_, ⟨⟩, writable⟩
      exact ⟨disk, rfl, writable⟩
    · rintro ⟨_, ⟨⟩, writable⟩
      exact ⟨_, rfl, writable⟩

/-- Where a file was written, it may be saved again, and its directory is there already. -/
theorem Disk.withParent_written {disk made after : Disk} {path : String} {content : List UInt8}
    (parent : disk.withParent path = .ok made) (written : made.write path content = .ok after) :
    after.withParent path = .ok after ∧ after.Writable path := by
  obtain ⟨place, -, vacant, plain, put⟩ := write_eq_ok_iff.mp written
  constructor
  · unfold Disk.withParent at parent ⊢
    cases above : Path.parent? path with
    | none => rfl
    | some directory =>
      simp only [above] at parent
      -- The file does not stand where the directory stands, so the directory is still there.
      refine makeDirectories_of_node ((node?_makeDirectories parent).imp_right fun there => ?_)
      rw [put]
      exact node?_put vacant content there
  · obtain ⟨again, located, stands⟩ := stands_of_write written
    exact ⟨plain, again, located, by rw [stands]; simp⟩

/-! ### The text of a file -/

/-- The text of a file on a disk. -/
def Disk.readText (disk : Disk) (path : String) : Except FileFault String :=
  match disk.read path with
  | .error fault => .error fault
  | .ok content =>
    match Text.decode? content with
    | some letters => .ok (.ofList letters)
    | none => .error .notUtf8

/-- Reading a text looks at the disk, and changes nothing. -/
theorem readText_run_eq (path : String) (world : World) :
    (Machine.readText path : StateM World (Except FileFault String)).run world =
      (world.disk.readText path, world) := by
  have bytes : (Machine.read path : StateM World (Except FileFault (List UInt8))).run world =
      (world.disk.read path, world) := rfl
  rw [Machine.readText, StateT.run_bind, bytes, id_bind_eq, Disk.readText]
  cases world.disk.read path with
  | error fault => rfl
  | ok content =>
    cases decoded : Text.decode? content with
    | none => simp [decoded]
    | some letters => simp [decoded]

namespace Registry

/-! ### Loading -/

/-- The registry in a file of a disk; where the file is missing or blank, the registry is empty. -/
def loaded (disk : Disk) (path : String) : Except StoreError Registry :=
  match disk.read path with
  | .error .notFound => .ok empty
  | .error fault => .error (.io fault)
  | .ok content =>
    match Text.decode? content with
    | none => .error (.io .notUtf8)
    | some letters =>
      if Text.allBlank (.ofList letters) then .ok empty
      else (parse (.ofList letters)).mapError (.connections path)

/-- Loading looks at the disk, and changes nothing. -/
theorem load_run_eq (path : String) (world : World) :
    (load path : StateM World (Except StoreError Registry)).run world =
      (loaded world.disk path, world) := by
  rw [load, StateT.run_bind, readText_run_eq, id_bind_eq, loaded, Disk.readText]
  cases world.disk.read path with
  | error fault => cases fault <;> rfl
  | ok content =>
    simp only []
    cases Text.decode? content with
    | none => rfl
    | some letters =>
      by_cases blank : Text.allBlank (.ofList letters) = true
      · simp [blank]
      · simp [blank]

/-- What is loaded is sound. -/
theorem loaded_sound {disk : Disk} {path : String} {registry : Registry}
    (success : loaded disk path = .ok registry) : registry.Sound := by
  -- A registry is loaded empty, or from a text that was parsed.
  unfold loaded at success
  split at success
  · cases success
    exact empty_sound
  · cases success
  · split at success
    · cases success
    · split at success
      · cases success
        exact empty_sound
      · rename_i letters _ _
        cases read : parse (.ofList letters) with
        | error error =>
          rw [read] at success
          cases success
        | ok parsed =>
          rw [read] at success
          cases success
          exact parse_sound read

/-- From the text of a sound registry, that registry is loaded. -/
theorem Sound.loaded_written {registry : Registry} (sound : registry.Sound) {disk : Disk} {path : String}
    (content : disk.read path = .ok (Text.bytes registry.write.toList)) : loaded disk path = .ok registry := by
  rw [loaded, content]
  simp [Text.decode?_bytes, registry.allBlank_write, sound.parse_write]

/-! ### Saving -/

/-- Saving makes the directory, then writes the text; where it fails, at most directories are new. -/
theorem save_run_eq (registry : Registry) (path : String) (world : World) :
    (registry.save path : StateM World (Except StoreError Unit)).run world =
      match world.disk.withParent path with
      | .error fault => (.error (.io fault), world)
      | .ok made =>
        match made.write path (Text.bytes registry.write.toList) with
        | .error fault => (.error (.io fault), { world with disk := made })
        | .ok disk => (.ok (), { world with disk := disk }) := by
  -- The steps of saving are opened one by one, and each may end it.
  rw [save, StateT.run_bind, id_bind_eq, makeParent_run]
  cases world.disk.withParent path with
  | error fault => rfl
  | ok made =>
    simp only [StateT.run_bind]
    rw [writeText_run]
    cases made.write path (Text.bytes registry.write.toList) with
    | error fault => rfl
    | ok disk => rfl

/-- A save that fails leaves every file as it was. -/
theorem save_failed {registry : Registry} {path : String} {world after : World} {error : StoreError}
    (failed : (registry.save path : StateM World (Except StoreError Unit)).run world =
      (.error error, after)) : world.disk.SameFiles after.disk := by
  -- It failed at the directory, before anything was made, or at the file, after directories were.
  rw [save_run_eq] at failed
  cases parent : world.disk.withParent path with
  | error fault =>
    rw [parent] at failed
    cases failed
    exact .refl _
  | ok made =>
    simp only [parent] at failed
    cases written : made.write path (Text.bytes registry.write.toList) with
    | error fault =>
      rw [written] at failed
      cases failed
      exact Disk.withParent_sameFiles parent
    | ok disk =>
      rw [written] at failed
      cases failed

/-- A saved file holds the text of the registry, is loaded as the registry, and may be saved again. -/
theorem saved_file {registry : Registry} (sound : registry.Sound) {path : String} {world after : World}
    (saved : (registry.save path : StateM World (Except StoreError Unit)).run world = (.ok (), after)) :
    after.disk.read path = .ok (Text.bytes registry.write.toList) ∧
      loaded after.disk path = .ok registry ∧ after.CanSave path := by
  rw [save_run_eq] at saved
  cases parent : world.disk.withParent path with
  | error fault =>
    rw [parent] at saved
    cases saved
  | ok made =>
    simp only [parent] at saved
    cases written : made.write path (Text.bytes registry.write.toList) with
    | error fault =>
      rw [written] at saved
      cases saved
    | ok disk =>
      rw [written] at saved
      cases saved
      have content : disk.read path = .ok (Text.bytes registry.write.toList) :=
        Disk.read_of_write written
      obtain ⟨there, writable⟩ := Disk.withParent_written parent written
      exact ⟨content, sound.loaded_written content, canSave_iff_withParent.mpr ⟨disk, there, writable⟩⟩

end Registry

end Placard
