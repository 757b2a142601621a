import Placard.Proofs.Machine.Disk

/-! Directories on a disk: making them leaves every file as it was, and they stay once they are made. -/

namespace Placard.Disk

/-- Two disks hold the same files with the same bytes; directories may differ. -/
def SameFiles (disk other : Disk) : Prop :=
  ∀ place content, other.at? place = some (.file content) ↔ disk.at? place = some (.file content)

/-- A disk holds its own files. -/
theorem SameFiles.refl (disk : Disk) : disk.SameFiles disk := fun _ _ => Iff.rfl

/-- Disks that hold the files of one disk hold the same files. -/
theorem SameFiles.trans {disk middle other : Disk} (first : disk.SameFiles middle)
    (second : middle.SameFiles other) : disk.SameFiles other :=
  fun place content => (second place content).trans (first place content)

/-- A directory that is put where nothing stood changes no file. -/
theorem sameFiles_put {disk : Disk} {place : Place} (free : disk.at? place = none) :
    disk.SameFiles (disk.put place .directory) := by
  intro other content
  have below : place ≠ [] := ne_nil_of_file (by rw [free]; simp)
  rw [at?_put disk below]
  by_cases same : other = place
  · -- Neither disk has a file at the place itself.
    simp [same, free]
  · rw [if_neg same]

/-! ### Making directories -/

/-- One directory is made where a path leads to a place at which nothing stands. -/
theorem makeDirectory_eq_ok_iff {disk made : Disk} {path : String} :
    disk.makeDirectory path = .ok made ↔
      ∃ place, disk.locate path = .ok place ∧ disk.at? place = none ∧
        made = disk.put place .directory := by
  unfold makeDirectory
  cases disk.locate path with
  | error fault => simp
  | ok place =>
    cases node : disk.at? place with
    | none => simp [node, eq_comm]
    | some held => simp [node]

/-- Making one directory changes no file. -/
theorem makeDirectory_sameFiles {disk made : Disk} {path : String}
    (success : disk.makeDirectory path = .ok made) : disk.SameFiles made := by
  obtain ⟨place, -, free, rfl⟩ := makeDirectory_eq_ok_iff.mp success
  exact sameFiles_put free

/-- Where one directory was made, the path leads to it. -/
theorem node?_makeDirectory {disk made : Disk} {path : String}
    (success : disk.makeDirectory path = .ok made) : made.node? path = some .directory := by
  obtain ⟨place, located, free, rfl⟩ := makeDirectory_eq_ok_iff.mp success
  obtain ⟨accepted, leads, -⟩ := locate_eq_ok_iff.mp located
  have vacant : disk.at? place ≠ some .directory := by rw [free]; simp
  have stands : (disk.put place .directory).at? place = some .directory := by
    rw [at?_put disk (ne_nil_of_file vacant), if_pos rfl]
  -- The names of the path lead to the same place as before, where the directory stands now.
  have same : (disk.put place .directory).start path = disk.start path := by simp [start]
  have again : (disk.put place .directory).locate path = .ok place := by
    refine locate_eq_ok_iff.mpr ⟨accepted, same ▸ follow_put vacant _ leads, ?_⟩
    rintro ⟨content, file⟩
    rw [stands] at file
    cases file
  rw [node?, again]
  exact stands

/-- A directory is settled by making it, or by finding it there. -/
theorem settle_cases {disk made : Disk} {path : String} (settled : disk.settle path = .ok made) :
    disk.makeDirectory path = .ok made ∨ made = disk ∧ disk.node? path = some .directory := by
  -- Making it may fail only because it is there already.
  unfold settle at settled
  cases success : disk.makeDirectory path with
  | ok next =>
    rw [success] at settled
    exact .inl settled
  | error fault =>
    simp only [success] at settled
    split at settled
    · rename_i there
      cases settled
      exact .inr ⟨rfl, there⟩
    · cases settled

/-- A directory is ensured where it is there, by making it, or by settling it once the one above is. -/
theorem ensure_cases {fuel : Nat} {disk made : Disk} {path : String}
    (ensured : disk.ensure path (fuel + 1) = .ok made) :
    (made = disk ∧ (path = "" ∨ disk.node? path = some .directory)) ∨
    disk.makeDirectory path = .ok made ∨
    ∃ above higher, disk.ensure above fuel = .ok higher ∧ higher.settle path = .ok made := by
  rw [ensure] at ensured
  by_cases empty : path = ""
  · rw [if_pos (by simpa using empty)] at ensured
    cases ensured
    exact .inl ⟨rfl, .inl empty⟩
  rw [if_neg (by simpa using empty)] at ensured
  cases success : disk.makeDirectory path with
  | ok next =>
    rw [success] at ensured
    exact .inr (.inl ensured)
  | error fault =>
    rw [success] at ensured
    cases fault with
    | notFound =>
      -- The directory above is missing, so it comes first.
      cases parent : Path.parent? path with
      | none =>
        simp only [parent] at ensured
        cases ensured
      | some above =>
        simp only [parent] at ensured
        obtain ⟨higher, upper, settled⟩ := bind_eq_ok_iff.mp ensured
        exact .inr (.inr ⟨above, higher, upper, settled⟩)
    | _ =>
      -- Whatever else is wrong, the directory may be there all the same.
      simp only at ensured
      split at ensured
      · rename_i there
        cases ensured
        exact .inl ⟨rfl, .inr there⟩
      · cases ensured

/-- What making one directory keeps is kept when directories are made one after another. -/
theorem makeDirectories_keeps {Keeps : Disk → Disk → Prop} (same : ∀ disk, Keeps disk disk)
    (trans : ∀ {disk middle made}, Keeps disk middle → Keeps middle made → Keeps disk made)
    (one : ∀ {disk made : Disk} {path}, disk.makeDirectory path = .ok made → Keeps disk made)
    {disk made : Disk} {path : String} (success : disk.makeDirectories path = .ok made) :
    Keeps disk made := by
  have settled {disk made : Disk} {path : String} (settled : disk.settle path = .ok made) :
      Keeps disk made := by
    rcases settle_cases settled with success | ⟨rfl, -⟩
    · exact one success
    · exact same _
  -- Every step upwards is one for the directory above, followed by settling this one.
  have ensured (fuel : Nat) {made : Disk} {path : String} (ensured : disk.ensure path fuel = .ok made) :
      Keeps disk made := by
    induction fuel generalizing made path with
    | zero => cases ensured
    | succ fuel ih =>
      rcases ensure_cases ensured with ⟨rfl, -⟩ | success | ⟨above, higher, upper, last⟩
      · exact same _
      · exact one success
      · exact trans (ih upper) (settled last)
  exact ensured _ success

/-- Making directories changes no file. -/
theorem makeDirectories_sameFiles {disk made : Disk} {path : String}
    (success : disk.makeDirectories path = .ok made) : disk.SameFiles made :=
  makeDirectories_keeps SameFiles.refl SameFiles.trans makeDirectory_sameFiles success

/-- A directory that is there need not be made. -/
theorem makeDirectories_of_node {disk : Disk} {path : String}
    (there : path = "" ∨ disk.node? path = some .directory) :
    disk.makeDirectories path = .ok disk := by
  rw [makeDirectories, ensure]
  by_cases empty : path = ""
  · rw [if_pos (by simpa using empty)]
  rw [if_neg (by simpa using empty)]
  have standing : disk.node? path = some .directory := there.resolve_left empty
  -- Making it once more is refused only because it is there.
  have refused : disk.makeDirectory path = .error .alreadyExists := by
    unfold node? at standing
    unfold makeDirectory
    cases located : disk.locate path with
    | error fault => simp [located] at standing
    | ok place =>
      simp only [located] at standing
      simp [standing]
  rw [refused]
  simp only [standing, if_true]

/-- Directories that were made need not be made again. -/
theorem node?_makeDirectories {disk made : Disk} {path : String}
    (success : disk.makeDirectories path = .ok made) :
    path = "" ∨ made.node? path = some .directory := by
  rcases ensure_cases success with ⟨rfl, there⟩ | success | ⟨above, higher, -, last⟩
  · exact there
  · exact .inr (node?_makeDirectory success)
  · rcases settle_cases last with success | ⟨rfl, there⟩
    · exact .inr (node?_makeDirectory success)
    · exact .inr there

/-- A directory stays where it is when a file is put where no directory stood. -/
theorem node?_put {disk : Disk} {place : Place} (vacant : disk.at? place ≠ some .directory)
    (content : List UInt8) {path : String} (there : disk.node? path = some .directory) :
    (disk.put place (.file content)).node? path = some .directory := by
  -- The directory stands elsewhere, and no name on the way to it leads to the file.
  unfold node? at there
  cases located : disk.locate path with
  | error fault => simp [located] at there
  | ok found =>
    simp only [located] at there
    obtain ⟨accepted, leads, -⟩ := locate_eq_ok_iff.mp located
    have apart : found ≠ place := fun same => vacant (same ▸ there)
    have stands : (disk.put place (.file content)).at? found = some .directory := by
      rw [at?_put disk (ne_nil_of_file vacant), if_neg apart, there]
    have same : (disk.put place (.file content)).start path = disk.start path := by simp [start]
    have again : (disk.put place (.file content)).locate path = .ok found := by
      refine locate_eq_ok_iff.mpr ⟨accepted, same ▸ follow_put vacant _ leads, ?_⟩
      rintro ⟨bytes, file⟩
      rw [stands] at file
      cases file
    rw [node?, again]
    exact stands

end Placard.Disk
