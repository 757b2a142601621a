import Placard.Proofs.Machine.Rooted

/-! Paths by their names: the places that they name, and slashes that change nothing but their length. -/

namespace Placard

namespace Path

/-- A name in a directory, behind any number of slashes. -/
def slashed (directory : String) (count : Nat) (name : String) : String :=
  directory ++ (.ofList (List.replicate count '/') ++ name)

/-- The first slash ends the directory. -/
theorem slashed_succ (directory : String) (count : Nat) (name : String) :
    slashed directory (count + 1) name = directory ++ "/" ++ slashed "" count name := by
  have first : String.ofList ('/' :: List.replicate count '/') =
      "/" ++ String.ofList (List.replicate count '/') := String.ofList_cons
  rw [slashed, slashed, List.replicate_succ, first]
  simp only [String.empty_append, String.append_assoc]

/-- The characters of such a path. -/
theorem toList_slashed (directory : String) (count : Nat) (name : String) :
    (slashed directory count name).toList =
      directory.toList ++ (List.replicate count '/' ++ name.toList) := by
  simp [slashed]

/-- The pieces of such a path: between the slashes there is nothing. -/
theorem splitAt_slashed {directory name : String} (above : '/' ∉ directory.toList)
    (plain : '/' ∉ name.toList) (count : Nat) :
    Text.splitAt '/' (slashed directory (count + 1) name) =
      directory :: (List.replicate count "" ++ [name]) := by
  -- Each slash ends an empty piece, and the name is what is left.
  have pieces : Text.splitAt '/' (slashed "" count name) = List.replicate count "" ++ [name] := by
    induction count with
    | zero =>
      have bare : slashed "" 0 name = name := by simp [slashed]
      rw [bare, Text.splitAt_single plain]
      rfl
    | succ count ih =>
      rw [slashed_succ, Text.splitAt_slash, ih]
      rfl
  rw [slashed_succ, Text.splitAt_slash, Text.splitAt_single above, pieces]
  rfl

/-- The names of such a path are the directory and the name, unless one of them stands for no step. -/
theorem names_slashed {directory name : String} (above : '/' ∉ directory.toList)
    (plain : '/' ∉ name.toList) (count : Nat) :
    names (slashed directory (count + 1) name) =
      [directory, name].filter fun piece => piece != "" && piece != "." := by
  have between : (List.replicate count "").filter (fun piece => piece != "" && piece != ".") = [] := by
    rw [List.filter_replicate]
    rfl
  rw [names, splitAt_slashed above plain]
  simp only [List.filter_cons, List.filter_append, between, List.nil_append]

/-- Every slash of such a path is one byte. -/
theorem utf8ByteSize_slashed (directory : String) (count : Nat) (name : String) :
    (slashed directory count name).utf8ByteSize =
      directory.utf8ByteSize + count + name.utf8ByteSize := by
  have slashes : (String.ofList (List.replicate count '/')).utf8ByteSize = count := by
    induction count with
    | zero => rfl
    | succ count ih =>
      rw [List.replicate_succ, String.ofList_cons, String.utf8ByteSize_append, ih,
        String.utf8ByteSize_singleton]
      have one : ('/' : Char).utf8Size = 1 := by decide
      omega
  rw [slashed, String.utf8ByteSize_append, String.utf8ByteSize_append, slashes]
  omega

/-- Slashes at the end of a path are left out. -/
theorem bare_slashes (count : Nat) (reversed : List Char) :
    bare (List.replicate count '/' ++ reversed) = bare reversed := by
  induction count with
  | zero => rfl
  | succ count ih =>
    rw [List.replicate_succ, List.cons_append, bare]
    exact ih

/-- A text ends as a name does, and not with a slash or a dot. -/
def EndsPlain (text : String) : Prop :=
  ∃ last before, text.toList.reverse = last :: before ∧ last ≠ '/' ∧ last ≠ '.'

/-- Nothing is left out at the end of a name. -/
theorem bare_plain {last : Char} (slash : last ≠ '/') (dot : last ≠ '.') (before : List Char) :
    bare (last :: before) = last :: before := by
  unfold bare
  split
  next same => exact absurd (List.cons.inj same).1 slash
  next same => exact absurd (List.cons.inj same).1 dot
  next => rfl

/-- Such a path may name a file. -/
theorem wantsDirectory_slashed {name : String} (ends : EndsPlain name) (directory : String)
    (count : Nat) : wantsDirectory (slashed directory count name) = false := by
  obtain ⟨last, before, reversed, slash, dot⟩ := ends
  rw [wantsDirectory, toList_slashed, List.reverse_append, List.reverse_append, reversed]
  simp only [List.cons_append]
  split
  next same => exact absurd (List.cons.inj same).1 slash
  next same => exact absurd (List.cons.inj same).1 dot
  next same => exact absurd (List.cons.inj same).1 dot
  next => rfl

/-- Such a path names something in the directory. -/
theorem parent?_slashed {directory name : String} (ends : EndsPlain name)
    (plain : '/' ∉ name.toList) (some_ : directory ≠ "")
    (kept : bare directory.toList.reverse = directory.toList.reverse) (count : Nat) :
    parent? (slashed directory (count + 1) name) = some directory := by
  obtain ⟨last, before, reversed, slash, dot⟩ := ends
  -- Read backwards, the name ends at the last slash, and the slashes before it are left out.
  have whole : (slashed directory (count + 1) name).toList.reverse =
      last :: before ++ (List.replicate (count + 1) '/' ++ directory.toList.reverse) := by
    rw [toList_slashed, List.reverse_append, List.reverse_append, reversed, List.reverse_replicate,
      List.append_assoc]
  have cut : (last :: before ++ (List.replicate (count + 1) '/' ++ directory.toList.reverse)).dropWhile
      (· != '/') = List.replicate (count + 1) '/' ++ directory.toList.reverse := by
    rw [List.dropWhile_append_of_pos, List.replicate_succ]
    · rfl
    · intro letter member
      rw [← reversed, List.mem_reverse] at member
      rw [bne_iff_ne]
      rintro rfl
      exact plain member
  have solid : directory.toList.reverse.isEmpty = false := by
    rw [List.isEmpty_eq_false_iff, List.reverse_ne_nil_iff]
    intro empty
    exact some_ (String.toList_eq_nil_iff.mp empty)
  rw [parent?, whole, List.cons_append, bare_plain slash dot, ← List.cons_append]
  simp only [List.cons_append] at cut ⊢
  simp only [cut, bare_slashes, kept, solid, Bool.false_and]
  simp

end Path

namespace Disk

/-- The system takes such a path unless it is too long. -/
theorem accepted_slashed {directory name : String} (count : Nat)
    (above : Accepted directory) (own : Accepted name) (one : '/' ∉ directory.toList)
    (plain : '/' ∉ name.toList)
    (short : directory.utf8ByteSize + (count + 1) + name.utf8ByteSize < 4096) :
    Accepted (Path.slashed directory (count + 1) name) := by
  obtain ⟨noNul, some_, brief⟩ := above
  obtain ⟨noNul', -, brief'⟩ := own
  rw [Bool.or_eq_false_iff, Text.splitAt_single one] at brief
  rw [Bool.or_eq_false_iff, Text.splitAt_single plain] at brief'
  refine ⟨?_, ?_, ?_⟩
  · rw [Path.toList_slashed, ← Bool.not_eq_true, List.contains_iff_mem]
    rw [← Bool.not_eq_true, List.contains_iff_mem] at noNul noNul'
    simp only [List.mem_append, List.mem_replicate, not_or]
    exact ⟨noNul, by simp, noNul'⟩
  · intro empty
    have letters := congrArg String.toList empty
    rw [Path.toList_slashed] at letters
    simp at letters
  · rw [Path.utf8ByteSize_slashed, Path.splitAt_slashed one plain, decide_eq_false (by omega),
      Bool.false_or, List.any_eq_false]
    simp only [List.any_cons, List.any_nil, Bool.or_false] at brief brief'
    intro piece among
    simp only [List.mem_cons, List.mem_append, List.mem_replicate, List.not_mem_nil,
      or_false] at among
    obtain rfl | ⟨-, rfl⟩ | rfl := among
    · exact Bool.not_eq_true _ ▸ brief.2
    · decide
    · exact Bool.not_eq_true _ ▸ brief'.2

end Disk

namespace Disk

/-- The place that a path names by its names alone, whether or not anything stands on the way. -/
def named (disk : Disk) (path : String) : Place :=
  (Path.names path).foldl step (disk.start path)

/-- Names that lead to a place name it. -/
theorem eq_of_follow {disk : Disk} {start goal : Place} {names : List String}
    (leads : disk.follow start names = .ok goal) : goal = names.foldl step start := by
  -- One step is taken for each name, and what stands on the way only decides whether it is taken.
  induction names generalizing start with
  | nil =>
    cases leads
    rfl
  | cons name others ih =>
    rcases follow_cons_eq_ok_iff.mp leads with ⟨rfl, same⟩ | ⟨-, -, rest⟩
    · exact same.symm
    · exact ih rest

/-- A path that leads to a place names it. -/
theorem eq_named_of_locate {disk : Disk} {path : String} {place : Place}
    (located : disk.locate path = .ok place) : place = disk.named path :=
  eq_of_follow (locate_eq_ok_iff.mp located).2.1

/-- What stands where a path leads stands at the place that it names. -/
theorem at?_named {disk : Disk} {path : String} {node : Node} (there : disk.node? path = some node) :
    disk.locate path = .ok (disk.named path) ∧ disk.at? (disk.named path) = some node := by
  unfold node? at there
  cases located : disk.locate path with
  | error fault => simp [located] at there
  | ok place =>
    simp only [located] at there
    cases eq_named_of_locate located
    exact ⟨rfl, there⟩

namespace Grows

variable {disk other : Disk}

/-- More directories change no name. -/
theorem named (grows : disk.Grows other) (path : String) : other.named path = disk.named path := by
  simp only [Disk.named, start, grows.working]

/-- Names lead where they led. -/
theorem follow (grows : disk.Grows other) {start goal : Place} {names : List String}
    (leads : disk.follow start names = .ok goal) : other.follow start names = .ok goal := by
  -- Every place on the way but the last is a directory, and those are still there.
  induction names generalizing start with
  | nil => exact leads
  | cons name others ih =>
    rw [follow_cons_eq_ok_iff] at leads ⊢
    refine leads.imp_right ?_
    intro ⟨more, directory, rest⟩
    exact ⟨more, grows.kept _ directory, ih rest⟩

/-- A path leads where it led, as long as no file comes to stand there. -/
theorem locate (grows : disk.Grows other) {path : String} {place : Place}
    (located : disk.locate path = .ok place) (same : other.at? place = disk.at? place) :
    other.locate path = .ok place := by
  obtain ⟨accepted, leads, plain⟩ := locate_eq_ok_iff.mp located
  have start : other.start path = disk.start path := by simp only [Disk.start, grows.working]
  refine locate_eq_ok_iff.mpr ⟨accepted, start ▸ grows.follow leads, ?_⟩
  rw [same]
  exact plain

end Grows

end Disk

end Placard
