import Placard.Proofs.Machine.Directories
import Placard.Proofs.Machine.Path

/-! A path and its full name: both lead to the same place where the working directory is one. -/

namespace Placard.Disk

/-- The working directory is one, and its full name is taken by the system. -/
structure Rooted (disk : Disk) : Prop where
  named : ∀ name ∈ disk.working, Path.IsName name
  accepted : ∀ name ∈ disk.working, '\x00' ∉ name.toList ∧ name.utf8ByteSize ≤ 255
  standing : ∀ count, disk.at? (disk.working.take count) = some .directory

/-- A disk has the directories of another one, and starts from the same place. -/
structure Grows (disk other : Disk) : Prop where
  working : other.working = disk.working
  kept : ∀ place, disk.at? place = some .directory → other.at? place = some .directory

namespace Grows

/-- A disk has its own directories. -/
theorem refl (disk : Disk) : disk.Grows disk := ⟨rfl, fun _ there => there⟩

/-- What grew twice has the first directories. -/
theorem trans {disk middle other : Disk} (first : disk.Grows middle) (second : middle.Grows other) :
    disk.Grows other :=
  ⟨second.working.trans first.working, fun place there => second.kept place (first.kept place there)⟩

/-- The working directory stays one. -/
theorem rooted {disk other : Disk} (grows : disk.Grows other) (rooted : disk.Rooted) : other.Rooted := by
  obtain ⟨named, accepted, standing⟩ := rooted
  rw [← grows.working] at named accepted standing
  exact ⟨named, accepted, fun count => grows.kept _ (standing count)⟩

end Grows

/-- Where no directory stood, a node may be put. -/
theorem grows_put {disk : Disk} {place : Place} (vacant : disk.at? place ≠ some .directory) (node : Node) :
    disk.Grows (disk.put place node) := by
  refine ⟨put_working disk place node, fun other there => ?_⟩
  -- A directory that was there stands elsewhere.
  have apart : other ≠ place := by
    rintro rfl
    exact vacant there
  rw [at?_put disk (ne_nil_of_file vacant), if_neg apart, there]

/-- Writing a file keeps the directories. -/
theorem grows_write {disk after : Disk} {path : String} {content : List UInt8}
    (written : disk.write path content = .ok after) : disk.Grows after := by
  obtain ⟨place, -, vacant, -, rfl⟩ := write_eq_ok_iff.mp written
  exact grows_put vacant _

/-! ### Making directories -/

/-- Making one directory keeps the others. -/
theorem makeDirectory_grows {disk made : Disk} {path : String}
    (success : disk.makeDirectory path = .ok made) : disk.Grows made := by
  obtain ⟨place, -, free, rfl⟩ := makeDirectory_eq_ok_iff.mp success
  exact grows_put (by rw [free]; simp) .directory

/-- Making directories keeps the others. -/
theorem makeDirectories_grows {disk made : Disk} {path : String}
    (success : disk.makeDirectories path = .ok made) : disk.Grows made :=
  makeDirectories_keeps Grows.refl Grows.trans makeDirectory_grows success

/-! ### Full names -/

/-- The full name of a path that is read from the working directory. -/
def fullPath (disk : Disk) (path : String) : String :=
  Path.join (Path.ofNames disk.working) path

/-- Names that lead down through directories are followed first. -/
theorem follow_append {disk : Disk} {names rest : List String} (some_ : rest ≠ []) {start : Place}
    (down : ∀ name ∈ names, name ≠ "..")
    (standing : ∀ count, 0 < count → disk.at? (start ++ names.take count) = some .directory) :
    disk.follow start (names ++ rest) = disk.follow (start ++ names) rest := by
  -- Each of the names leads one step down, to a directory that more names follow.
  induction names generalizing start with
  | nil => rw [List.nil_append, List.append_nil]
  | cons name others ih =>
    have next : disk.at? (start ++ [name]) = some .directory := by
      simpa using standing 1 Nat.one_pos
    have plain : (name == "..") = false := by
      simpa using down name List.mem_cons_self
    have more : (others ++ rest).isEmpty = false := by
      simp [some_]
    rw [List.cons_append, follow, plain]
    simp only [Bool.false_eq_true, if_false, more, next]
    rw [ih (fun name member => down name (List.mem_cons_of_mem _ member)), List.append_assoc]
    · rfl
    · intro count positive
      rw [List.append_assoc]
      exact standing (count + 1) (Nat.succ_pos count)

/-- The system takes the full name of a path that it takes, unless it is too long. -/
theorem accepted_fullPath {disk : Disk} (rooted : disk.Rooted) {path : String} (accepted : Accepted path)
    (relative : Path.isAbsolute path = false) (short : (disk.fullPath path).utf8ByteSize < 4096) :
    Accepted (disk.fullPath path) := by
  obtain ⟨noNul, some_, brief⟩ := accepted
  have full : disk.fullPath path = Path.ofNames (disk.working ++ [path]) :=
    Path.join_ofNames rooted.named relative
  rw [Bool.or_eq_false_iff, List.any_eq_false] at brief
  -- No character is NUL, the path is not empty, and neither it nor one of its names is too long.
  refine ⟨?_, ?_, ?_⟩
  · rw [← Bool.not_eq_true, List.contains_iff_mem, full, Path.ofNames, String.toList_append,
      List.mem_append]
    rintro (slash | among)
    · simp at slash
    · rcases Text.mem_joinWith among with slash | ⟨name, among, inside⟩
      · simp at slash
      · rcases List.mem_append.mp among with above | last
        · exact (rooted.accepted name above).1 inside
        · rw [List.mem_singleton.mp last] at inside
          exact Bool.false_ne_true (noNul.symm.trans (List.contains_iff_mem.mpr inside))
  · intro empty
    have letters := congrArg String.toList (full.symm.trans empty)
    simp [Path.ofNames] at letters
  · have short_ : decide (4096 ≤ (disk.fullPath path).utf8ByteSize) = false :=
      decide_eq_false (Nat.not_le_of_lt short)
    rw [short_, Bool.false_or, full, Path.splitAt_ofNames rooted.named, List.any_eq_false]
    intro name among
    rw [List.cons_append, List.mem_cons, List.mem_append] at among
    rcases among with rfl | above | own
    · decide
    · simpa using (rooted.accepted name above).2
    · exact brief.2 name own

/-- A path and its full name lead to the same place, where a file may stand. -/
theorem locate_fullPath {disk : Disk} (rooted : disk.Rooted) {path : String} {place : Place}
    (located : disk.locate path = .ok place) (vacant : disk.at? place ≠ some .directory)
    (plain : Path.wantsDirectory path = false) (relative : Path.isAbsolute path = false)
    (short : (disk.fullPath path).utf8ByteSize < 4096) :
    disk.locate (disk.fullPath path) = .ok place := by
  obtain ⟨accepted, leads, -⟩ := locate_eq_ok_iff.mp located
  have full : disk.fullPath path = Path.ofNames (disk.working ++ [path]) :=
    Path.join_ofNames rooted.named relative
  refine locate_eq_ok_iff.mpr ⟨accepted_fullPath rooted accepted relative short, ?_, fun _ => ?_⟩
  · have origin : disk.start (disk.fullPath path) = [] := by
      rw [start, full, Path.isAbsolute]
      simp [Path.ofNames]
    have relative_ : disk.start path = disk.working := by
      rw [start, relative]
      rfl
    rw [relative_] at leads
    -- A path without names would lead to the working directory, where no file stands.
    have some_ : Path.names path ≠ [] := by
      intro none_
      rw [none_, follow, Except.ok.injEq] at leads
      have there := rooted.standing disk.working.length
      rw [List.take_length, leads] at there
      exact vacant there
    rw [origin, full, Path.names_ofNames_concat rooted.named, follow_append some_, List.nil_append]
    · exact leads
    · exact fun name member => (rooted.named name member).above
    · exact fun count _ => rooted.standing count
  · rw [full]
    exact Path.wantsDirectory_ofNames accepted.2.1 disk.working plain

end Placard.Disk
