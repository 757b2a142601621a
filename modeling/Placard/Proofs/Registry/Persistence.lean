import Placard.Proofs.Machine.Disk
import Placard.Proofs.Machine.Run
import Placard.Proofs.Registry.RoundTrip
import Placard.Proofs.Text.Utf8
import Placard.Settings.Store

/-! A registry that is saved to a file is loaded from it again, whatever the file held before. -/

namespace Placard

/-- A file may be saved at a path: its directory can be made, and then it can be written. -/
def World.CanSave (world : World) (path : String) : Prop :=
  ∃ made, (makeParent path : StateM World (Except FileFault Unit)).run world = (.ok (), made) ∧
    made.disk.Writable path

/-! ### Texts in files -/

/-- Writing a text puts its bytes on the disk, or leaves everything as it was. -/
theorem writeText_run (path text : String) (world : World) :
    (Machine.writeText path text : StateM World (Except FileFault Unit)).run world =
      match world.disk.write path (Text.bytes text.toList) with
      | .ok disk => (.ok (), { world with disk := disk })
      | .error fault => (.error fault, world) := rfl

/-- Reading the bytes of a text gives the text, and changes nothing. -/
theorem readText_run {path text : String} {world : World}
    (content : world.disk.read path = .ok (Text.bytes text.toList)) :
    (Machine.readText path : StateM World (Except FileFault String)).run world = (.ok text, world) := by
  have read : (Machine.read path : StateM World (Except FileFault (List UInt8))).run world =
      (.ok (Text.bytes text.toList), world) := by
    rw [← content]
    rfl
  rw [Machine.readText, StateT.run_bind, read]
  simp [Text.decode?_bytes]

namespace Registry

/-! ### Registries in files -/

/-- The text of a registry is not blank, not even that of the empty one. -/
theorem allBlank_write (registry : Registry) : Text.allBlank registry.write = false := by
  -- An array begins with its mark, whether it has items or not.
  obtain ⟨gap, -, written⟩ :=
    Json.exists_block 0 '[' ']' (Json.prettyItems 1 (registry.toList.map Connection.toJson))
  rw [write, toJson, Json.pretty, Json.prettyChars, written, Text.allBlank, String.toList_ofList]
  rfl

/-- Saving succeeds when the directory of the file is made and the text of the registry written. -/
theorem save_run_iff {registry : Registry} {path : String} {world after : World} :
    (registry.save path : StateM World (Except StoreError Unit)).run world = (.ok (), after) ↔
      ∃ made disk,
        (makeParent path : StateM World (Except FileFault Unit)).run world = (.ok (), made) ∧
        made.disk.write path (Text.bytes registry.write.toList) = .ok disk ∧
        after = { made with disk := disk } := by
  rw [save, StateT.run_bind, id_bind_eq]
  rcases parent : (makeParent path : StateM World (Except FileFault Unit)).run world with ⟨result, made⟩
  cases result with
  | error fault =>
    constructor
    · rintro ⟨⟩
    · rintro ⟨_, _, ⟨⟩, _⟩
  | ok _ =>
    have run := writeText_run path registry.write made
    cases written : made.disk.write path (Text.bytes registry.write.toList) with
    | error fault =>
      rw [written] at run
      simp only [StateT.run_bind, run]
      constructor
      · rintro ⟨⟩
      · rintro ⟨_, disk, ⟨⟩, other, _⟩
        cases written.symm.trans other
    | ok disk =>
      rw [written] at run
      simp only [StateT.run_bind, run]
      constructor
      · rintro ⟨⟩
        exact ⟨made, disk, rfl, written, rfl⟩
      · rintro ⟨_, other, ⟨⟩, again, rfl⟩
        cases written.symm.trans again
        rfl

/-- Loading gives the registry that the text of the file writes, and changes nothing. -/
theorem load_run {registry : Registry} {path text : String} {world : World}
    (read : world.disk.read path = .ok (Text.bytes text.toList))
    (filled : Text.allBlank text = false) (parsed : parse text = .ok registry) :
    (load path : StateM World (Except StoreError Registry)).run world = (.ok registry, world) := by
  rw [load, StateT.run_bind, readText_run read]
  simp [filled, parsed]

/-- A registry can be saved exactly where a file can be saved. -/
theorem canSave_iff (registry : Registry) (path : String) (world : World) :
    world.CanSave path ↔ ∃ after,
      (registry.save path : StateM World (Except StoreError Unit)).run world = (.ok (), after) := by
  simp only [save_run_iff]
  constructor
  · rintro ⟨made, parent, writable⟩
    obtain ⟨disk, written⟩ := writable.exists_write (Text.bytes registry.write.toList)
    exact ⟨_, made, disk, parent, written, rfl⟩
  · rintro ⟨_, made, disk, parent, written, rfl⟩
    exact ⟨made, parent, Disk.writable_of_write written⟩

/-- A registry is read back from its text, and loaded from every file to which it was saved. -/
theorem save_load {registry : Registry} (sound : registry.Sound) :
    parse registry.write = .ok registry ∧
      ∀ (path : String) (world : World),
        (world.CanSave path ↔ ∃ after,
          (registry.save path : StateM World (Except StoreError Unit)).run world = (.ok (), after)) ∧
        ∀ after,
          (registry.save path : StateM World (Except StoreError Unit)).run world = (.ok (), after) →
          (load path : StateM World (Except StoreError Registry)).run after = (.ok registry, after) := by
  refine ⟨sound.parse_write, fun path world => ⟨registry.canSave_iff path world, ?_⟩⟩
  intro after saved
  obtain ⟨made, disk, -, written, rfl⟩ := save_run_iff.mp saved
  -- What stood at the path before does not matter, as the file is written as a whole.
  have content : disk.read path = .ok (Text.bytes registry.write.toList) := Disk.read_of_write written
  exact load_run content registry.allBlank_write sound.parse_write

/-- A connection with quotes and controls in its texts goes through a file that held no text before. -/
theorem save_load_quoted :
    ∃ (registry : Registry) (world after : World),
      registry.entries = [("a \"b\"",
        ⟨"a \"b\"", "\\\n\x01é", .post, .bearer, "", "\t", "", .text, "😀\x7f"⟩)] ∧
      world.disk = ⟨[(["data", "list"], .file [0xFF]), (["data"], .directory)], []⟩ ∧
      (registry.save "data/list" : StateM World (Except StoreError Unit)).run world = (.ok (), after) ∧
      (load "data/list" : StateM World (Except StoreError Registry)).run after =
        (.ok registry, after) := by
  have sound : Sound ⟨[("a \"b\"",
      ⟨"a \"b\"", "\\\n\x01é", .post, .bearer, "", "\t", "", .text, "😀\x7f"⟩)]⟩ :=
    sound_iff.mpr (by decide)
  have canSave : World.CanSave
      ⟨⟨[(["data", "list"], .file [0xFF]), (["data"], .directory)], []⟩, [], ⟨0⟩, "", ""⟩ "data/list" :=
    ⟨_, rfl, by decide, ["data", "list"], by rfl, by decide⟩
  obtain ⟨after, saved⟩ := ((save_load sound).2 "data/list" _).1.mp canSave
  exact ⟨_, _, after, rfl, rfl, saved, ((save_load sound).2 "data/list" _).2 after saved⟩

end Registry

end Placard
