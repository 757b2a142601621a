import Placard.Proofs.Machine.Named
import Placard.Proofs.Settings.Layers

/-! Settings that are saved are loaded again, with every leaf as it was; a failed save changes no file, and one at
another path leaves them as they are. -/

namespace Placard

namespace Settings

/-- No variable around the program gives a setting. -/
def Unset (environment : List (String × String)) : Prop :=
  ∀ entry ∈ environment, Variable.keys? entry.1 = none

/-- Settings with a positive time for sources are loaded from the file that holds their text. -/
theorem loaded_found {settings : Settings} (holdable : settings.Holdable)
    (positive : 0 < settings.timeoutSeconds.toNat) {world : World} (unset : Unset world.environment)
    {path found text : String} (first : world.disk.settingsFile? path = some found)
    (text_ : settings.write? = some text)
    (bytes : world.disk.read found = .ok (Text.bytes text.toList)) :
    loaded world path = .ok settings := by
  -- The text of the file is read as the table that it was written from.
  have holds : world.disk.Holds path settings.toToml :=
    .file first bytes (parse_write? holdable text_)
  rw [loaded, holds.givenFile_eq, Variable.layer_foreign unset]
  simp only [ofLayers_written holds.distinct positive]
  rfl

/-- Settings with a positive time for sources are loaded from the file that was written for them. -/
theorem loaded_written {settings : Settings} (holdable : settings.Holdable)
    (positive : 0 < settings.timeoutSeconds.toNat) {world : World} (unset : Unset world.environment)
    {made after : Disk} {path text : String} (reachable : made.Reachable path)
    (text_ : settings.write? = some text)
    (written : made.write path (Text.bytes text.toList) = .ok after) :
    loaded { world with disk := after } path = .ok settings := by
  -- The file that is found is the one that was written.
  obtain ⟨found, first, bytes⟩ := Disk.settingsFile?_written reachable written
  exact @loaded_found _ holdable positive { world with disk := after } unset _ _ _ first text_ bytes

/-- Settings that can be written are saved where the directory is made and the file then written. -/
theorem save_eq_ok_iff {settings : Settings} {text : String} (text_ : settings.write? = some text)
    {path : String} {world after : World} :
    (settings.save path : StateM World (Except StoreError Unit)).run world = (.ok (), after) ↔
      ∃ made disk, world.disk.withParent path = .ok made ∧
        made.write path (Text.bytes text.toList) = .ok disk ∧ after = { world with disk := disk } := by
  -- Only the directory and the file can fail, as the text is there.
  rw [save_run_eq, text_]
  cases world.disk.withParent path with
  | error fault =>
    constructor
    · rintro ⟨⟩
    · rintro ⟨_, _, ⟨⟩, _⟩
  | ok made =>
    simp only []
    cases written : made.write path (Text.bytes text.toList) with
    | error fault =>
      constructor
      · rintro ⟨⟩
      · rintro ⟨_, disk, ⟨⟩, other, _⟩
        cases written.symm.trans other
    | ok disk =>
      constructor
      · rintro ⟨⟩
        exact ⟨made, disk, rfl, written, rfl⟩
      · rintro ⟨_, other, ⟨⟩, again, rfl⟩
        cases written.symm.trans again
        rfl

/-- Settings that can be written are saved exactly where a file can be saved. -/
theorem canSave_iff {settings : Settings} {text : String} (text_ : settings.write? = some text)
    (path : String) (world : World) :
    world.CanSave path ↔ ∃ after,
      (settings.save path : StateM World (Except StoreError Unit)).run world = (.ok (), after) := by
  -- Whether the file can be written does not depend on its text.
  rw [canSave_iff_withParent]
  constructor
  · intro ⟨made, parent, writable⟩
    obtain ⟨disk, written⟩ := writable.exists_write _
    exact ⟨_, (save_eq_ok_iff text_).mpr ⟨made, disk, parent, written, rfl⟩⟩
  · intro ⟨after, saved⟩
    obtain ⟨made, disk, parent, written, -⟩ := (save_eq_ok_iff text_).mp saved
    exact ⟨made, parent, Disk.writable_of_write written⟩

/-- Settings that cannot be written are refused once the directory is there, and no file changes. -/
theorem save_unwritable {settings : Settings} (unwritable : settings.write? = none) (path : String)
    (world : World) : ∃ error after,
      (settings.save path : StateM World (Except StoreError Unit)).run world = (.error error, after) ∧
      world.disk.SameFiles after.disk ∧
      ∀ made, world.disk.withParent path = .ok made → error = .unwritable := by
  -- The directory is made before the text is, so it may be there afterwards.
  rw [save_run_eq, unwritable]
  cases parent : world.disk.withParent path with
  | error fault => exact ⟨_, _, rfl, .refl _, by rintro _ ⟨⟩⟩
  | ok made => exact ⟨_, _, rfl, Disk.withParent_sameFiles parent, fun _ _ => rfl⟩

/-- Settings are saved where a file can be, and loaded again as they are; numbers that are too large
for a settings file are refused, and leave every file as it was. -/
theorem load_saved (settings : Settings) (path : String) (world : World) :
    (1 ≤ settings.timeoutSeconds.toNat → settings.timeoutSeconds.toNat ≤ largestWritten →
      settings.refreshMinutes.toNat ≤ largestWritten →
      settings.target.previewScale.isFinite = true →
      Decimal.float? (Decimal.toml.write settings.target.previewScale).toList =
        some settings.target.previewScale →
      (world.CanSave path ↔ ∃ after,
        (settings.save path : StateM World (Except StoreError Unit)).run world = (.ok (), after)) ∧
      (Unset world.environment → world.disk.Reachable path → ∀ after,
        (settings.save path : StateM World (Except StoreError Unit)).run world = (.ok (), after) →
        (load path : StateM World (Except StoreError Settings)).run after = (.ok settings, after))) ∧
    (largestWritten < settings.timeoutSeconds.toNat ∨ largestWritten < settings.refreshMinutes.toNat →
      ∃ error after,
        (settings.save path : StateM World (Except StoreError Unit)).run world = (.error error, after) ∧
        world.disk.SameFiles after.disk ∧
        ∀ made, world.disk.withParent path = .ok made → error = .unwritable) := by
  constructor
  · intro positive timeout refresh finite exact_
    have holdable : settings.Holdable := by
      rw [largestWritten] at timeout refresh
      exact ⟨by omega, by omega, finite, exact_⟩
    have text := write?_eq holdable
    refine ⟨canSave_iff text path world, ?_⟩
    · -- Making the directory leaves the path leading where it led.
      intro unset reachable after saved
      obtain ⟨made, disk, parent, written, rfl⟩ := (save_eq_ok_iff text).mp saved
      have found := (Disk.withParent_grows parent).reachable reachable
      rw [load_run_eq, loaded_written holdable positive unset found text written]
  · -- Either number alone is enough for the writer to refuse.
    intro large
    have unwritable : settings.write? = none := by
      have refused : settings.writable = false := by
        rw [Settings.writable, Bool.and_eq_false_iff]
        rcases large with timeout | refresh
        · exact .inl (decide_eq_false (Nat.not_le_of_lt timeout))
        · exact .inr (decide_eq_false (Nat.not_le_of_lt refresh))
      rw [write?, refused, if_neg Bool.false_ne_true]
    exact save_unwritable unwritable path world

/-- Settings with quotes, line ends and controls in their texts. -/
def quoted (refreshMinutes : UInt64) : Settings where
  timeoutSeconds := 7
  refreshMinutes := refreshMinutes
  template := "'''\"\"\"\n\\\r\t\x01é"
  note := some ""
  web := { userAgent := some "a'b\"c" }

/-- Such settings go through a file in a new directory, and too large a number leaves an old file. -/
theorem load_saved_quoted :
    ∃ after error last, ∃ world : World,
      world.disk = ⟨[(["work"], .directory), (["work", "old"], .file [0xFF])], ["work"]⟩ ∧
      ((quoted 0).save "conf/app.toml" : StateM World (Except StoreError Unit)).run world =
        (.ok (), after) ∧
      (load "conf/app.toml" : StateM World (Except StoreError Settings)).run after =
        (.ok (quoted 0), after) ∧
      ((quoted 0xFFFF_FFFF_FFFF_FFFF).save "old" : StateM World (Except StoreError Unit)).run world =
        (.error error, last) ∧
      error = .unwritable ∧ last.disk.at? ["work", "old"] = some (.file [0xFF]) := by
  have rooted : Disk.Rooted ⟨[(["work"], .directory), (["work", "old"], .file [0xFF])], ["work"]⟩ := by
    refine ⟨fun name member => ?_, fun name member => ?_, fun count => ?_⟩
    · rw [List.mem_singleton.mp member]
      exact ⟨by decide, by decide, by decide, by decide⟩
    · rw [List.mem_singleton.mp member]
      decide
    · cases count with
      | zero => rfl
      | succ count => rw [List.take_of_length_le (by simp)]; rfl
  have canSave : World.CanSave ⟨⟨[(["work"], .directory), (["work", "old"], .file [0xFF])], ["work"]⟩,
      [("HOME", "/work")], ⟨0⟩, "", ""⟩ "conf/app.toml" :=
    ⟨_, rfl, by decide, ["work", "conf", "app.toml"], by rfl, by decide⟩
  have unset : Unset [("HOME", "/work")] := by
    intro entry member
    rw [List.mem_singleton.mp member]
    rfl
  obtain ⟨saving, loading⟩ := (load_saved (quoted 0) "conf/app.toml" _).1 (by decide) (by decide)
    (by decide) (by rfl) (by rfl)
  obtain ⟨after, saved⟩ := saving.mp canSave
  obtain ⟨error, last, refused, same, cause⟩ := (load_saved (quoted 0xFFFF_FFFF_FFFF_FFFF) "old"
    ⟨⟨[(["work"], .directory), (["work", "old"], .file [0xFF])], ["work"]⟩, [("HOME", "/work")], ⟨0⟩,
      "", ""⟩).2 (.inr (by decide))
  exact ⟨after, error, last, _, rfl, saved, loading unset (.inr ⟨rooted, by decide⟩) after saved, refused,
    cause _ rfl, (same _ _).mpr rfl⟩

end Settings

/-! ### Where the full name is too long -/

/-- Where a path is too long for the system, nothing stands. -/
theorem Disk.node?_long {path : String} (long : 4096 ≤ path.utf8ByteSize) (disk : Disk) :
    disk.node? path = none := by
  unfold node?
  cases located : disk.locate path with
  | error fault => rfl
  | ok place =>
    have accepted := (locate_eq_ok_iff.mp located).1.2.2
    rw [decide_eq_true long, Bool.true_or] at accepted
    cases accepted

/-- A relative path of nearly the largest size is looked for in vain, as every full name is too long. -/
theorem Disk.settingsFile?_long {path : String} (relative : Path.isAbsolute path = false)
    (long : 4095 ≤ path.utf8ByteSize) (disk : Disk) : disk.settingsFile? path = none := by
  rw [settingsFile?, firstFile?, List.find?_eq_none]
  intro candidate among
  rw [Path.upward, relative] at among
  simp only [Bool.false_eq_true, if_false, List.mem_map] at among
  obtain ⟨up, -, rfl⟩ := among
  -- Every candidate has the slash of the root in front of the path.
  have longer (names : List String) : 4096 ≤ (Path.join (Path.ofNames names) path).utf8ByteSize := by
    have solid : (Path.ofNames names == "") = false := by
      rw [beq_eq_false_iff_ne]
      intro empty
      have letters := congrArg String.toList empty
      simp [Path.ofNames] at letters
    have slash : "/".utf8ByteSize = 1 := by decide
    rw [Path.join, relative, solid, Bool.or_self, if_neg Bool.false_ne_true]
    split
    · rw [Path.ofNames, String.utf8ByteSize_append, String.utf8ByteSize_append]
      omega
    · rw [String.utf8ByteSize_append, String.utf8ByteSize_append]
      omega
  rw [node?_long (longer _)]
  decide

namespace Settings

/-- Where no file is found and no variable gives a setting, the usual settings are loaded. -/
theorem loaded_none {world : World} {path : String} (missing : world.disk.settingsFile? path = none)
    (unset : Unset world.environment) : loaded world path = .ok usual := by
  have alone : ofLayers (.table .usual []) (.table .environment []) = .ok usual :=
    ofLayers_eq (Given.gives_nothing .usual) (Given.gives_nothing .environment) fun _ => rfl
  rw [loaded, givenFile, missing, Variable.layer_foreign unset]
  simp only [alone]
  rfl

/-- What is saved under a relative path of 4095 bytes is not found, and the usual settings are loaded. -/
theorem saved_lost {settings : Settings} (holdable : settings.Holdable) {path : String} {world : World}
    (unset : Unset world.environment) (relative : Path.isAbsolute path = false)
    (long : 4095 ≤ path.utf8ByteSize) (canSave : world.CanSave path) : ∃ after,
      (settings.save path : StateM World (Except StoreError Unit)).run world = (.ok (), after) ∧
      (load path : StateM World (Except StoreError Settings)).run after = (.ok usual, after) := by
  -- Saving goes by the path, loading by its full name, which is too long for the system.
  obtain ⟨made, parent, writable⟩ := canSave_iff_withParent.mp canSave
  cases text : settings.write? with
  | none =>
    rw [write?_eq holdable] at text
    cases text
  | some text_ =>
    obtain ⟨disk, written⟩ := writable.exists_write (Text.bytes text_.toList)
    have missing : disk.settingsFile? path = none := Disk.settingsFile?_long relative long disk
    have nothing : loaded { world with disk := disk } path = .ok usual := loaded_none missing unset
    refine ⟨{ world with disk := disk }, ?_, ?_⟩
    · exact (save_eq_ok_iff text).mpr ⟨made, disk, parent, written, rfl⟩
    · rw [load_run_eq, nothing]

/-- A path of one name with slashes in front of it, in the working directory. -/
def slashedPath (count : Nat) : String := .ofList ('.' :: (List.replicate count '/' ++ ['c']))

/-- The dot of such a path stands for its directory. -/
theorem slashedPath_eq (count : Nat) : slashedPath count = Path.slashed "." count "c" := by
  apply String.toList_inj.mp
  rw [Path.toList_slashed, slashedPath, String.toList_ofList]
  rfl

/-- Such a path is relative, as it begins with a dot. -/
theorem isAbsolute_slashedPath (count : Nat) : Path.isAbsolute (slashedPath count) = false := by
  rw [Path.isAbsolute, slashedPath, String.toList_ofList]
  rfl

/-- The name at the end of such a path is a letter. -/
theorem endsPlain_letter : Path.EndsPlain "c" := ⟨'c', [], by decide, by decide, by decide⟩

/-- Such a path leads to a file in the working directory, as long as the system takes it. -/
theorem writable_slashedPath {count : Nat} (short : count < 4093) {disk : Disk}
    (free : disk.at? (disk.working ++ ["c"]) ≠ some .directory) :
    disk.Writable (slashedPath (count + 1)) := by
  have plain := Path.wantsDirectory_slashed endsPlain_letter "." (count + 1)
  have names : Path.names (Path.slashed "." (count + 1) "c") = ["c"] := by
    rw [Path.names_slashed (by decide) (by decide)]
    decide
  have accepted : Disk.Accepted (Path.slashed "." (count + 1) "c") := by
    have sizes : ".".utf8ByteSize = 1 ∧ "c".utf8ByteSize = 1 := by decide
    apply Disk.accepted_slashed count (by unfold Disk.Accepted; decide) (by unfold Disk.Accepted; decide)
      (by decide) (by decide)
    omega
  have relative := isAbsolute_slashedPath (count + 1)
  rw [slashedPath_eq] at relative ⊢
  refine ⟨plain, disk.working ++ ["c"], ?_, free⟩
  refine Disk.locate_eq_ok_iff.mpr ⟨accepted, ?_, fun _ => plain⟩
  rw [Disk.start, relative, names]
  rfl

/-- Settings that are saved under a relative path of 4095 bytes are not loaded from it, and numbers
that are too large are not complained about where the directory cannot be made. -/
theorem load_saved_fails :
    (∃ after,
      (({ timeoutSeconds := 7 } : Settings).save (slashedPath 4093) :
        StateM World (Except StoreError Unit)).run ⟨⟨[], []⟩, [], ⟨0⟩, "", ""⟩ = (.ok (), after) ∧
      (load (slashedPath 4093) : StateM World (Except StoreError Settings)).run after =
        (.ok usual, after)) ∧
    usual ≠ { timeoutSeconds := 7 } ∧
    (({ timeoutSeconds := 0x8000_0000_0000_0000 } : Settings).save "f/x.toml" :
        StateM World (Except StoreError Unit)).run ⟨⟨[(["f"], .file [])], []⟩, [], ⟨0⟩, "", ""⟩ =
      (.error (.io .alreadyExists), ⟨⟨[(["f"], .file [])], []⟩, [], ⟨0⟩, "", ""⟩) := by
  refine ⟨?_, ?_, by rfl⟩
  · have holdable : ({ timeoutSeconds := 7 } : Settings).Holdable :=
      ⟨by decide, by decide, by rfl, by rfl⟩
    -- The working directory is the root, so there is nothing to make.
    have here {path : String} (above : Path.parent? path = some ".") :
        Disk.withParent ⟨[], []⟩ path = .ok ⟨[], []⟩ := by
      rw [Disk.withParent, above]
      rfl
    have above : Path.parent? (slashedPath 4093) = some "." := by
      rw [slashedPath_eq]
      exact Path.parent?_slashed endsPlain_letter (by decide) (by decide) (by decide) 4092
    have parent := here above
    have writable : Disk.Writable ⟨[], []⟩ (slashedPath 4093) :=
      writable_slashedPath (by decide) (by decide)
    have long : 4095 ≤ (slashedPath 4093).utf8ByteSize := by
      rw [slashedPath_eq, Path.utf8ByteSize_slashed]
      decide
    exact saved_lost holdable (by simp [Unset]) (isAbsolute_slashedPath 4093) long
      (canSave_iff_withParent.mpr ⟨_, parent, writable⟩)
  · intro same
    have seconds := congrArg Settings.timeoutSeconds same
    cases seconds

end Settings

/-! ### Saving at another path -/

namespace Disk

/-- What saving at a path may do to a disk, whether or not it succeeds: directories are added, and a
file may be put at the place that the path names. -/
structure Saves (disk : Disk) (path : String) (after : Disk) : Prop where
  grows : disk.Grows after
  files : ∀ place content, place ≠ disk.named path →
    (after.at? place = some (.file content) ↔ disk.at? place = some (.file content))

namespace Saves

variable {disk after : Disk} {path : String}

/-- A save may leave everything as it was. -/
theorem refl (disk : Disk) (path : String) : disk.Saves path disk :=
  ⟨.refl disk, fun _ _ _ => Iff.rfl⟩

/-- Making the directory of the file is a part of saving. -/
theorem of_parent {made : Disk} (parent : disk.withParent path = .ok made) :
    disk.Saves path made :=
  ⟨withParent_grows parent, fun place content _ => withParent_sameFiles parent place content⟩

/-- Writing the file once its directory is there is the whole of saving. -/
theorem of_write {made : Disk} {content : List UInt8} (parent : disk.withParent path = .ok made)
    (written : made.write path content = .ok after) : disk.Saves path after := by
  obtain ⟨place, located, vacant, -, rfl⟩ := write_eq_ok_iff.mp written
  have grown := withParent_grows parent
  refine ⟨grown.trans (grows_put vacant _), ?_⟩
  intro other bytes apart
  -- The file stands at the place that the path names, before and after directories were made.
  have elsewhere : other ≠ place := by
    rw [eq_named_of_locate located, grown.named]
    exact apart
  rw [at?_put made (ne_nil_of_file vacant), if_neg elsewhere]
  exact withParent_sameFiles parent other bytes

/-- What stands at another place stays there. -/
theorem at? (saves : disk.Saves path after) {place : Place} {node : Node}
    (apart : place ≠ disk.named path) (there : disk.at? place = some node) :
    after.at? place = some node := by
  cases node with
  | directory => exact saves.grows.kept place there
  | file content => exact (saves.files place content apart).mpr there

/-- What another path leads to stays there, if the two name different places. -/
theorem node? (saves : disk.Saves path after) {other : String} {node : Node}
    (apart : disk.named other ≠ disk.named path) (there : disk.node? other = some node) :
    after.node? other = some node := by
  obtain ⟨located, stands⟩ := at?_named there
  have kept := saves.at? apart stands
  have again := saves.grows.locate located (kept.trans stands.symm)
  rw [Disk.node?, again]
  exact kept

end Saves

end Disk

/-! ### The two files of the program -/

/-- Saving settings changes the disk only as a save at the path may. -/
theorem Settings.save_saves {settings : Settings} {path : String} {world after : World}
    {result : Except StoreError Unit}
    (saved : (settings.save path : StateM World (Except StoreError Unit)).run world = (result, after)) :
    world.disk.Saves path after.disk ∧ after = { world with disk := after.disk } := by
  -- It ends at the directory, at the text, at the file, or with the file written.
  rw [save_run_eq] at saved
  cases parent : world.disk.withParent path with
  | error fault =>
    rw [parent] at saved
    cases saved
    exact ⟨.refl _ path, rfl⟩
  | ok made =>
    simp only [parent] at saved
    cases text : settings.write? with
    | none =>
      simp only [text] at saved
      cases saved
      exact ⟨.of_parent parent, rfl⟩
    | some text_ =>
      simp only [text] at saved
      cases written : made.write path (Text.bytes text_.toList) with
      | error fault =>
        simp only [written] at saved
        cases saved
        exact ⟨.of_parent parent, rfl⟩
      | ok disk =>
        simp only [written] at saved
        cases saved
        exact ⟨.of_write parent written, rfl⟩

/-- Saving a registry changes the disk only as a save at the path may. -/
theorem Registry.save_saves {registry : Registry} {path : String} {world after : World}
    {result : Except StoreError Unit}
    (saved : (registry.save path : StateM World (Except StoreError Unit)).run world = (result, after)) :
    world.disk.Saves path after.disk ∧ after = { world with disk := after.disk } := by
  rw [save_run_eq] at saved
  cases parent : world.disk.withParent path with
  | error fault =>
    rw [parent] at saved
    cases saved
    exact ⟨.refl _ path, rfl⟩
  | ok made =>
    simp only [parent] at saved
    cases written : made.write path (Text.bytes registry.write.toList) with
    | error fault =>
      simp only [written] at saved
      cases saved
      exact ⟨.of_parent parent, rfl⟩
    | ok disk =>
      simp only [written] at saved
      cases saved
      exact ⟨.of_write parent written, rfl⟩

/-- Settings that were saved stand at the place that the path names. -/
theorem Settings.saved_stands {settings : Settings} {text : String}
    (text_ : settings.write? = some text) {path : String} {world after : World}
    (saved : (settings.save path : StateM World (Except StoreError Unit)).run world = (.ok (), after)) :
    after.disk.locate path = .ok (after.disk.named path) ∧
      after.disk.at? (after.disk.named path) = some (.file (Text.bytes text.toList)) := by
  obtain ⟨made, disk, -, written, rfl⟩ := (save_eq_ok_iff text_).mp saved
  obtain ⟨place, located, stands⟩ := Disk.stands_of_write written
  cases Disk.eq_named_of_locate located
  exact ⟨located, stands⟩

end Placard
