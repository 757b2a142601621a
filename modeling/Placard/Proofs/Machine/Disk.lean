import Placard.Machine.Disk
import Placard.Proofs.Except
import Placard.Proofs.Keyed

/-! Files on a disk: what is written at a path is what is read there afterwards. -/

namespace Placard.Disk

/-! ### Nodes at places -/

/-- A disk keeps its working directory when a node is put on it. -/
@[simp] theorem put_working (disk : Disk) (place : Place) (node : Node) :
    (disk.put place node).working = disk.working := by
  unfold put
  split <;> rfl

/-- Putting a node at a place below the root changes what stands there, and nothing else. -/
theorem at?_put (disk : Disk) {place : Place} (below : place ≠ []) (node : Node) (other : Place) :
    (disk.put place node).at? other = if other = place then some node else disk.at? other := by
  by_cases root : other = []
  · rw [if_neg fun same => below (same.symm.trans root)]
    simp [at?, root]
  have named : other.isEmpty = false := by simpa using root
  rw [at?, at?, named, if_neg Bool.false_ne_true, if_neg Bool.false_ne_true]
  -- The node replaces the one that stood there, or stands behind all others.
  have found : (disk.nodes.any (·.1 == place)) = (disk.nodes.lookup place).isSome := by
    rw [Bool.eq_iff_iff, List.any_eq_true, List.lookup_isSome_iff]
    exact exists_congr fun entry => and_congr_right fun _ => ⟨BEq.symm, BEq.symm⟩
  rw [put, found]
  cases held : disk.nodes.lookup place with
  | some old =>
    rw [Option.isSome_some, if_pos rfl, Keyed.lookup_replaced, held]
    simp
  | none =>
    rw [Option.isSome_none, if_neg Bool.false_ne_true, List.lookup_append]
    by_cases wanted : other = place
    · simp [wanted, held]
    · have passed : (other == place) = false := beq_false_of_ne wanted
      simp [List.lookup_cons, wanted, passed]

/-- A place where no directory stands is below the root. -/
theorem ne_nil_of_file {disk : Disk} {place : Place} (file : disk.at? place ≠ some .directory) :
    place ≠ [] := by
  rintro rfl
  exact file rfl

/-! ### Following names -/

/-- The place to which one name leads. -/
def step (place : Place) (name : String) : Place :=
  if name == ".." then place.dropLast else place ++ [name]

/-- Names lead on as long as each place but the last is a directory. -/
theorem follow_cons_eq_ok_iff {disk : Disk} {start goal : Place} {name : String} {others : List String} :
    disk.follow start (name :: others) = .ok goal ↔
      (others = [] ∧ step start name = goal) ∨
        (others ≠ [] ∧ disk.at? (step start name) = some .directory ∧
          disk.follow (step start name) others = .ok goal) := by
  rw [follow, ← step]
  cases others with
  | nil => simp
  | cons next others =>
    cases disk.at? (step start name) with
    | none => simp
    | some node => cases node <;> simp

/-- What names lead to stays the same when a node is put where no directory stood. -/
theorem follow_put {disk : Disk} {place : Place} (file : disk.at? place ≠ some .directory) (node : Node)
    {start goal : Place} {names : List String} (leads : disk.follow start names = .ok goal) :
    (disk.put place node).follow start names = .ok goal := by
  induction names generalizing start with
  | nil => exact leads
  | cons name others ih =>
    rw [follow_cons_eq_ok_iff] at leads ⊢
    refine leads.imp_right fun ⟨more, directory, rest⟩ => ⟨more, ?_, ih rest⟩
    -- Every place on the way is a directory, so it is not the one that changes.
    have apart : step start name ≠ place := fun same => file (same ▸ directory)
    rw [at?_put disk (ne_nil_of_file file), if_neg apart, directory]

/-! ### Paths -/

/-- The system takes a path: it has no zero character, is not empty, and nothing of it is too long. -/
def Accepted (path : String) : Prop :=
  path.toList.contains '\x00' = false ∧ path ≠ "" ∧
    (4096 ≤ path.utf8ByteSize || (Text.splitAt '/' path).any (255 < ·.utf8ByteSize)) = false

/-- The place from which the names of a path lead on. -/
def start (disk : Disk) (path : String) : Place :=
  if Path.isAbsolute path then [] else disk.working

/-- A path leads to a place by its names, unless a file stands where it asks for a directory. -/
theorem locate_eq_ok_iff {disk : Disk} {path : String} {place : Place} :
    disk.locate path = .ok place ↔
      Accepted path ∧ disk.follow (disk.start path) (Path.names path) = .ok place ∧
        ((∃ content, disk.at? place = some (.file content)) → Path.wantsDirectory path = false) := by
  unfold locate
  rw [check_eq_ok_iff, check_eq_ok_iff, check_eq_ok_iff, bind_eq_ok_iff, ← start]
  have accepted : Accepted path ↔ ¬ path.toList.contains '\x00' = true ∧ ¬ (path == "") = true ∧
      ¬ (4096 ≤ path.utf8ByteSize || (Text.splitAt '/' path).any (255 < ·.utf8ByteSize)) = true := by
    rw [Accepted, Bool.not_eq_true, Bool.not_eq_true, Bool.not_eq_true, beq_eq_false_iff_ne]
  rw [accepted, and_assoc, and_assoc]
  refine and_congr_right fun _ => and_congr_right fun _ => and_congr_right fun _ => ?_
  -- What stands at the place is all that the last test looks at.
  constructor
  · rintro ⟨found, leads, checked⟩
    cases node : disk.at? found with
    | none =>
      simp only [node, pure_eq_ok, Except.ok.injEq] at checked
      subst checked
      exact ⟨leads, fun ⟨_, file⟩ => nomatch node.symm.trans file⟩
    | some held =>
      cases held with
      | directory =>
        simp only [node, pure_eq_ok, Except.ok.injEq] at checked
        subst checked
        exact ⟨leads, fun ⟨_, file⟩ => nomatch node.symm.trans file⟩
      | file content =>
        cases wants : Path.wantsDirectory path with
        | true => simp [node, wants] at checked
        | false =>
          simp only [node, wants, Bool.false_eq_true, if_false, pure_eq_ok, Except.ok.injEq] at checked
          subst checked
          exact ⟨leads, fun _ => rfl⟩
  · rintro ⟨leads, plain⟩
    refine ⟨place, leads, ?_⟩
    cases node : disk.at? place with
    | none => rfl
    | some held =>
      cases held with
      | directory => rfl
      | file content => exact if_neg (by rw [plain ⟨content, node⟩]; exact Bool.false_ne_true)

/-! ### Writing and reading -/

/-- A file may be written at a path: it leads to a place without a directory, and asks for none. -/
def Writable (disk : Disk) (path : String) : Prop :=
  Path.wantsDirectory path = false ∧
    ∃ place, disk.locate path = .ok place ∧ disk.at? place ≠ some .directory

/-- Writing succeeds where a path leads to no directory and asks for none, and puts the file there. -/
theorem write_eq_ok_iff {disk after : Disk} {path : String} {content : List UInt8} :
    disk.write path content = .ok after ↔
      ∃ place, disk.locate path = .ok place ∧ disk.at? place ≠ some .directory ∧
        Path.wantsDirectory path = false ∧ after = disk.put place (.file content) := by
  unfold write
  rw [bind_eq_ok_iff]
  refine exists_congr fun place => and_congr_right fun located => ?_
  cases node : disk.at? place with
  | none =>
    rw [check_eq_ok_iff, Bool.not_eq_true, pure_eq_ok, Except.ok.injEq]
    exact ⟨fun ⟨plain, same⟩ => ⟨nofun, plain, same.symm⟩, fun ⟨_, plain, same⟩ => ⟨plain, same.symm⟩⟩
  | some held =>
    cases held with
    | directory => exact iff_of_false (fun same => nomatch same) fun ⟨apart, _⟩ => apart rfl
    | file old =>
      -- A path that leads to a file was found to ask for no directory.
      have plain : Path.wantsDirectory path = false := (locate_eq_ok_iff.mp located).2.2 ⟨old, node⟩
      rw [pure_eq_ok, Except.ok.injEq]
      exact ⟨fun same => ⟨nofun, plain, same.symm⟩, fun ⟨_, _, same⟩ => same.symm⟩

/-- What is read of a file at a place is its content. -/
theorem read_of_at? {disk : Disk} {path : String} {place : Place} {content : List UInt8}
    (located : disk.locate path = .ok place) (stands : disk.at? place = some (.file content)) :
    disk.read path = .ok content := by
  rw [read, located, ok_bind, stands]
  rfl

/-- A file is read exactly where a path leads to one. -/
theorem read_eq_ok_iff {disk : Disk} {path : String} {content : List UInt8} :
    disk.read path = .ok content ↔ disk.node? path = some (.file content) := by
  unfold read node?
  cases disk.locate path with
  | error fault => simp
  | ok place =>
    rw [ok_bind]
    cases stands : disk.at? place with
    | none => simp [stands]
    | some node => cases node <;> simp [stands]

/-- The path of a file that was written leads to the file. -/
theorem stands_of_write {disk after : Disk} {path : String} {content : List UInt8}
    (written : disk.write path content = .ok after) :
    ∃ place, after.locate path = .ok place ∧ after.at? place = some (.file content) := by
  obtain ⟨place, located, file, plain, rfl⟩ := write_eq_ok_iff.mp written
  obtain ⟨accepted, leads, -⟩ := locate_eq_ok_iff.mp located
  -- The path leads to the same place as before, where the file stands now.
  have same : (disk.put place (.file content)).start path = disk.start path := by
    simp [start]
  refine ⟨place, locate_eq_ok_iff.mpr ⟨accepted, same ▸ follow_put file _ leads, fun _ => plain⟩, ?_⟩
  rw [at?_put disk (ne_nil_of_file file), if_pos rfl]

/-- The file that was written at a path is the one that is read there. -/
theorem read_of_write {disk after : Disk} {path : String} {content : List UInt8}
    (written : disk.write path content = .ok after) : after.read path = .ok content := by
  obtain ⟨place, again, stands⟩ := stands_of_write written
  exact read_of_at? again stands

/-- Where a file may be written, it may be written with any content. -/
theorem Writable.exists_write {disk : Disk} {path : String} (writable : disk.Writable path)
    (content : List UInt8) : ∃ after, disk.write path content = .ok after := by
  obtain ⟨plain, place, located, file⟩ := writable
  exact ⟨_, write_eq_ok_iff.mpr ⟨place, located, file, plain, rfl⟩⟩

/-- Where a file was written, it may be written. -/
theorem writable_of_write {disk after : Disk} {path : String} {content : List UInt8}
    (written : disk.write path content = .ok after) : disk.Writable path := by
  obtain ⟨place, located, file, plain, -⟩ := write_eq_ok_iff.mp written
  exact ⟨plain, place, located, file⟩

end Placard.Disk
