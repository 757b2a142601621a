import Placard.Proofs.Registry.Filed

/-! Two disks of the same shape: whatever is done to both, they keep it, and it fails on both or on neither. -/

namespace Placard.Disk

/-- Two disks have the same kinds of nodes at all places, and the same nodes at those that are seen. -/
structure Alike (seen : Place → Prop) (disk other : Disk) : Prop where
  working : other.working = disk.working
  kinds : ∀ place, (other.at? place).map Node.kind = (disk.at? place).map Node.kind
  nodes : ∀ place, seen place → other.at? place = disk.at? place

variable {seen : Place → Prop} {disk other : Disk}

/-- A disk is like itself. -/
theorem Alike.refl (seen : Place → Prop) (disk : Disk) : Alike seen disk disk :=
  ⟨rfl, fun _ => rfl, fun _ _ => rfl⟩

/-- At every place, either both disks have nothing, or both a directory, or both a file. -/
theorem Alike.at?_cases (alike : Alike seen disk other) (place : Place) :
    (disk.at? place = none ∧ other.at? place = none) ∨
    (disk.at? place = some .directory ∧ other.at? place = some .directory) ∨
    ∃ content content', disk.at? place = some (.file content) ∧
      other.at? place = some (.file content') := by
  have kinds := alike.kinds place
  cases here : disk.at? place with
  | none =>
    rw [here, Option.map_none, Option.map_eq_none_iff] at kinds
    exact .inl ⟨rfl, kinds⟩
  | some node =>
    rw [here, Option.map_some, Option.map_eq_some_iff] at kinds
    obtain ⟨node', there, same⟩ := kinds
    cases node with
    | directory =>
      cases node' with
      | directory => exact .inr (.inl ⟨rfl, there⟩)
      | file content' => cases same
    | file content =>
      cases node' with
      | directory => cases same
      | file content' => exact .inr (.inr ⟨content, content', rfl, there⟩)

/-! ### Looking -/

/-- A directory stands on one of the disks where it stands on the other. -/
theorem Alike.directory_iff (alike : Alike seen disk other) (place : Place) :
    other.at? place = some .directory ↔ disk.at? place = some .directory := by
  rcases alike.at?_cases place with ⟨here, there⟩ | ⟨here, there⟩ | ⟨content, content', here, there⟩ <;>
    simp [here, there]

/-- Names lead to the same place on both disks. -/
theorem Alike.follow (alike : Alike seen disk other) (start : Place) (names : List String) :
    other.follow start names = disk.follow start names := by
  induction names generalizing start with
  | nil => rfl
  | cons name others ih =>
    rw [Disk.follow, Disk.follow]
    simp only [ih]
    -- On the way, only the kinds of nodes are looked at.
    rcases alike.at?_cases (if name == ".." then start.dropLast else start ++ [name]) with
        ⟨here, there⟩ | ⟨here, there⟩ | ⟨content, content', here, there⟩ <;>
      simp only [here, there]

/-- A path leads to the same place on both disks. -/
theorem Alike.locate (alike : Alike seen disk other) (path : String) :
    other.locate path = disk.locate path := by
  rw [Disk.locate, Disk.locate, alike.working]
  simp only [alike.follow]
  cases disk.follow (if Path.isAbsolute path = true then [] else disk.working) (Path.names path) with
  | error fault => rfl
  | ok place =>
    -- At the end, a file may not be where a directory is asked for.
    rcases alike.at?_cases place with ⟨here, there⟩ | ⟨here, there⟩ | ⟨content, content', here, there⟩ <;>
      simp only [here, there, ok_bind]

/-- The same kind of node is found at a path on both disks. -/
theorem Alike.node?_kind (alike : Alike seen disk other) (path : String) :
    (other.node? path).map Node.kind = (disk.node? path).map Node.kind := by
  rw [node?, node?, alike.locate]
  cases disk.locate path with
  | error fault => rfl
  | ok place => exact alike.kinds place

/-- A directory is found at a path on both disks, or on neither. -/
theorem Alike.node?_directory_iff (alike : Alike seen disk other) (path : String) :
    other.node? path = some .directory ↔ disk.node? path = some .directory := by
  rw [node?, node?, alike.locate]
  cases disk.locate path with
  | error fault => simp
  | ok place => exact alike.directory_iff place

/-- What is read at a path that leads to a seen place is the same. -/
theorem Alike.read (alike : Alike seen disk other) {path : String}
    (leads : ∀ place, disk.locate path = .ok place → seen place) : other.read path = disk.read path := by
  -- The path leads to one place on both disks, and the nodes of seen places are equal.
  rw [Disk.read, Disk.read, alike.locate]
  cases located : disk.locate path with
  | error fault => rfl
  | ok place => simp only [ok_bind, alike.nodes place (leads place located)]

/-! ### Changing -/

/-- Nodes of one kind that are put at a place keep two disks alike. -/
theorem Alike.put (alike : Alike seen disk other) {place : Place} (below : place ≠ []) {node node' : Node}
    (kind : node'.kind = node.kind) (same : seen place → node' = node) :
    Alike seen (disk.put place node) (other.put place node') where
  working := by rw [put_working, put_working, alike.working]
  kinds at_ := by
    rw [at?_put disk below, at?_put other below]
    split
    · simp [kind]
    · exact alike.kinds at_
  nodes at_ known := by
    rw [at?_put disk below, at?_put other below]
    split
    next here => rw [same (here ▸ known)]
    next => exact alike.nodes at_ known

/-- One text written at a path keeps two disks alike, or fails on both. -/
theorem Alike.write (alike : Alike seen disk other) (path : String) (content : List UInt8) :
    EndAlike (Alike seen) (disk.write path content) (other.write path content) := by
  rw [Disk.write, Disk.write, alike.locate]
  cases disk.locate path with
  | error fault => exact .error fault
  | ok place =>
    have below : disk.at? place ≠ some .directory → place ≠ [] := ne_nil_of_file
    rw [ok_bind, ok_bind]
    -- A new file, a directory in its place, or an old file: the case is the same on both disks.
    rcases alike.at?_cases place with ⟨here, there⟩ | ⟨here, there⟩ | ⟨old, old', here, there⟩
    · simp only [here, there]
      split
      · exact .error _
      · exact .ok (alike.put (below (by simp [here])) rfl fun _ => rfl)
    · simp only [here, there]
      exact .error _
    · simp only [here, there]
      exact .ok (alike.put (below (by simp [here])) rfl fun _ => rfl)

/-- One directory is made on both disks, or on neither. -/
theorem Alike.makeDirectory (alike : Alike seen disk other) (path : String) :
    EndAlike (Alike seen) (disk.makeDirectory path) (other.makeDirectory path) := by
  rw [Disk.makeDirectory, Disk.makeDirectory, alike.locate]
  cases disk.locate path with
  | error fault => exact .error fault
  | ok place =>
    have below : disk.at? place ≠ some .directory → place ≠ [] := ne_nil_of_file
    rw [ok_bind, ok_bind]
    rcases alike.at?_cases place with ⟨here, there⟩ | ⟨here, there⟩ | ⟨old, old', here, there⟩
    · simp only [here, there]
      exact .ok (alike.put (below (by simp [here])) rfl fun _ => rfl)
    · simp only [here, there]
      exact .error _
    · simp only [here, there]
      exact .error _

/-- What failed may be right all the same, on both disks or on neither. -/
theorem Alike.thereAlready (alike : Alike seen disk other) (path : String) (fault : FileFault) :
    EndAlike (Alike seen) (if disk.node? path = some .directory then .ok disk else .error fault)
      (if other.node? path = some .directory then .ok other else .error fault) := by
  simp only [alike.node?_directory_iff path]
  split
  · exact .ok alike
  · exact .error fault

/-- A directory is settled on both disks, or on neither. -/
theorem Alike.settle (alike : Alike seen disk other) (path : String) :
    EndAlike (Alike seen) (disk.settle path) (other.settle path) := by
  rw [Disk.settle, Disk.settle]
  rcases (alike.makeDirectory path).either with ⟨fault, here, there⟩ | ⟨made, made', same, here, there⟩
  · rw [here, there]
    exact alike.thereAlready path fault
  · rw [here, there]
    exact .ok same

/-- A directory is ensured on both disks, or on neither. -/
theorem Alike.ensure (alike : Alike seen disk other) (fuel : Nat) (path : String) :
    EndAlike (Alike seen) (disk.ensure path fuel) (other.ensure path fuel) := by
  induction fuel generalizing path with
  | zero => exact .error _
  | succ fuel ih =>
    rw [Disk.ensure, Disk.ensure]
    split
    · exact .ok alike
    · rcases (alike.makeDirectory path).either with ⟨fault, here, there⟩ | ⟨made, made', same, here, there⟩
      · rw [here, there]
        cases fault with
        | notFound =>
          -- The directory above comes first, on both disks.
          cases Path.parent? path with
          | none => exact .error _
          | some above => exact (ih above).bind fun higher higher' alike => alike.settle path
        | _ => exact alike.thereAlready path _
      · rw [here, there]
        exact .ok same

/-- The directory of a file is made on both disks, or on neither. -/
theorem Alike.withParent (alike : Alike seen disk other) (path : String) :
    EndAlike (Alike seen) (disk.withParent path) (other.withParent path) := by
  rw [Disk.withParent, Disk.withParent]
  cases Path.parent? path with
  | none => exact .ok alike
  | some directory => exact alike.ensure _ directory

end Placard.Disk
