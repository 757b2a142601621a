import Placard.Proofs.Machine.Disk
import Placard.Proofs.Text.Mended
import Placard.Source.Fetch

/-! Sources and files: which source a location names, and the text that a file gives. -/

namespace Placard

/-- A path leads to a file. -/
def Disk.HasFile (disk : Disk) (path : String) : Prop :=
  ∃ content, disk.node? path = some (.file content)

namespace Source

/-! ### The mark of a command -/

/-- A text is the mark of a command, in letters of either case. -/
def IsMark (mark : String) : Prop :=
  mark.toList.map Char.toLower = commandMark.toList

/-- The mark has as many letters in either case. -/
theorem IsMark.length_eq {mark : String} (marks : IsMark mark) : mark.toList.length = commandMark.length := by
  have same : (mark.toList.map Char.toLower).length = commandMark.toList.length := congrArg List.length marks
  rwa [List.length_map, String.length_toList] at same

/-- A letter that is small in bytes in one case is so in the other. -/
theorem utf8Size_of_toLower {c : Char} (small : c.toLower.utf8Size = 1) : c.utf8Size = 1 := by
  unfold Char.toLower at small
  split at small
  · rename_i capital
    rw [Char.utf8Size_eq_one_iff]
    have : c.val ≤ 'Z'.val := capital.2
    exact UInt32.le_trans this (by decide)
  · exact small

/-- The mark takes up as many bytes in either case. -/
theorem IsMark.utf8ByteSize_eq {mark : String} (marks : IsMark mark) :
    mark.utf8ByteSize = commandMark.utf8ByteSize := by
  have small : ∀ c ∈ mark.toList, c.utf8Size = 1 := by
    intro c member
    have lower : c.toLower ∈ commandMark.toList := marks ▸ List.mem_map_of_mem member
    have all : (commandMark.toList.all fun d => d.utf8Size == 1) = true := by decide
    exact utf8Size_of_toLower (beq_iff_eq.mp (List.all_eq_true.mp all _ lower))
  -- One byte for each letter, and as many letters.
  have bytes (letters : List Char) (each : ∀ c ∈ letters, c.utf8Size = 1) :
      (String.ofList letters).utf8ByteSize = letters.length := by
    induction letters with
    | nil => rfl
    | cons c letters ih =>
      rw [String.ofList_cons, String.utf8ByteSize_append, String.utf8ByteSize_singleton,
        ih fun d member => each d (List.mem_cons_of_mem c member), each c List.mem_cons_self,
        List.length_cons, Nat.add_comm]
  calc mark.utf8ByteSize
    _ = (String.ofList mark.toList).utf8ByteSize := by rw [String.ofList_toList]
    _ = mark.toList.length := bytes _ small
    _ = commandMark.length := marks.length_eq
    _ = commandMark.utf8ByteSize := by decide

/-- A location names a command exactly if it is a mark with the command behind it. -/
theorem command?_eq_some_iff {location line : String} :
    command? location = some line ↔ ∃ mark, IsMark mark ∧ location = mark ++ line := by
  have lower : commandMark.toList.map Char.toLower = commandMark.toList := by decide
  unfold command? Text.sameIgnoringCase
  simp only [Option.ite_none_right_eq_some, beq_iff_eq, Option.some.injEq, lower]
  constructor
  · intro found
    obtain ⟨same, rest⟩ := found
    refine ⟨.ofList (location.toList.take commandMark.length), ?_, ?_⟩
    · rw [IsMark, String.toList_ofList]
      exact same
    · rw [← rest, ← String.ofList_append, List.take_append_drop, String.ofList_toList]
  · intro parted
    obtain ⟨mark, marks, rfl⟩ := parted
    have size := marks.length_eq
    rw [String.toList_append, List.take_left' size, List.drop_left' size]
    exact ⟨marks, String.ofList_toList⟩

/-- A location names no command exactly if no mark stands in front of it. -/
theorem command?_eq_none_iff {location : String} :
    command? location = none ↔ ∀ mark line, IsMark mark → location ≠ mark ++ line := by
  rw [Option.eq_none_iff_forall_ne_some]
  constructor
  · intro none mark line marks parted
    exact none line (command?_eq_some_iff.mpr ⟨mark, marks, parted⟩)
  · intro unmarked line found
    obtain ⟨mark, marks, parted⟩ := command?_eq_some_iff.mp found
    exact unmarked mark line marks parted

/-! ### Detection -/

/-- What a source is when it was found for a location, with the verb and the credentials of a request. -/
structure Detected (disk : Disk) (location : String) (method : Method) (credentials : Credentials)
    (source : Source) : Prop where
  /-- A file that is there comes first, whatever its path looks like. -/
  file (path : String) : source = .file path ↔ path = location ∧ location ≠ "" ∧ disk.HasFile location
  /-- What stands behind the mark of a command is the command, letter for letter. -/
  command (line : String) : source = .command line ↔
    ¬(location ≠ "" ∧ disk.HasFile location) ∧ ∃ mark, IsMark mark ∧ location = mark ++ line
  /-- All else is a web address as it stands. -/
  http (request : WebRequest) : source = .http request ↔
    ¬(location ≠ "" ∧ disk.HasFile location) ∧ (∀ mark line, IsMark mark → location ≠ mark ++ line) ∧
      request = ⟨location, method, credentials⟩
  /-- Only the mark of a command is taken off the location, which takes up six bytes in letters of either case. -/
  whole : ∃ removed, location = removed ++ source.target ∧
    (removed = "" ∧ source.kind ≠ .command ∨
      IsMark removed ∧ removed.utf8ByteSize = 6 ∧ source.kind = .command)

/-- What is told apart by a look at the disk and by the mark is what a location names. -/
theorem ofLocation_detected {disk : Disk} {isFile : Bool} {location : String}
    (found : isFile = true ↔ disk.HasFile location) (method : Method) (credentials : Credentials) :
    Detected disk location method credentials (ofLocation isFile location method credentials) := by
  have first : (location != "" && isFile) = true ↔ location ≠ "" ∧ disk.HasFile location := by
    rw [Bool.and_eq_true, bne_iff_ne, found]
  unfold ofLocation
  by_cases there : location ≠ "" ∧ disk.HasFile location
  · rw [if_pos (first.mpr there)]
    exact {
      file := fun path => by simp [there, eq_comm]
      command := fun line => by simp [there]
      http := fun request => by simp [there]
      whole := ⟨"", String.empty_append.symm, .inl ⟨rfl, by simp [kind]⟩⟩ }
  · rw [if_neg (mt first.mp there)]
    -- Where no file is there, the mark decides.
    cases named : command? location with
    | some line =>
      have parted := command?_eq_some_iff.mp named
      exact {
        file := fun path => by simp [there]
        command := fun other => by
          rw [← command?_eq_some_iff, named]
          simp [there]
        http := fun request => by
          rw [← command?_eq_none_iff, named]
          simp
        whole := by
          obtain ⟨mark, marks, rfl⟩ := parted
          exact ⟨mark, rfl, .inr ⟨marks, marks.utf8ByteSize_eq.trans (by decide), rfl⟩⟩ }
    | none =>
      exact {
        file := fun path => by simp [there]
        command := fun line => by
          rw [← command?_eq_some_iff, named]
          simp
        http := fun request => by
          rw [← command?_eq_none_iff, named]
          simp [there, eq_comm]
        whole := ⟨"", String.empty_append.symm, .inl ⟨rfl, by simp [kind]⟩⟩ }

/-- Looking for the source of a location leaves the machine as it was, and finds what the location names. -/
theorem detect_run (location : String) (method : Method) (credentials : Credentials) (world : World) :
    ∃ source, (detect location method credentials : StateM World Source).run world = (source, world) ∧
      Detected world.disk location method credentials source := by
  refine ⟨_, rfl, ofLocation_detected ?_ method credentials⟩
  show ((world.disk.node? location).map Node.kind == some .file) = true ↔ _
  rw [beq_iff_eq, Option.map_eq_some_iff]
  constructor
  · intro ⟨node, stands, kind⟩
    cases node with
    | file content => exact ⟨content, stands⟩
    | directory => cases kind
  · intro ⟨content, stands⟩
    exact ⟨_, stands, rfl⟩

/-- Every location names one source, on every machine, and nothing of the location is lost.

A location that is not empty and leads to a file names that file, even if it looks like a command or an address.
Any other one that begins with the mark of a command, in letters of either case, names the command behind the mark,
and all the rest are web addresses as they stand, with the verb and the credentials that go with them. The mark is
all that is ever taken off. -/
theorem location_names_source :
    (∀ (location : String) (method : Method) (credentials : Credentials) (world : World),
      ∃ source, (detect location method credentials : StateM World Source).run world = (source, world) ∧
        Detected world.disk location method credentials source) ∧
    ∀ (connection : Connection) (world : World),
      ∃ source, (connection.source : StateM World Source).run world = (source, world) ∧
        Detected world.disk connection.url connection.method connection.credentials source := by
  constructor
  · exact detect_run
  · intro connection world
    exact detect_run connection.url connection.method connection.credentials world

/-! ### The text of a file -/

open Text (bytes unmarked Part Cut Shown MaximalRun)
open Text.Part (joined)

/-- A file that can be read in time gives the text that its bytes are decoded to. -/
theorem fetch_file_run {path : String} {budget : Duration} {world : World} {content : List UInt8}
    (readable : world.disk.read path = .ok content) (within : budget.nanoseconds ≠ 0) :
    (fetch (.file path) budget : StateM World (Except SourceError String)).run world =
      (.ok (.ofList (Text.decodeLossy (Text.withoutMark content))), world) := by
  have read : (Machine.read path : StateM World (Except FileFault (List UInt8))).run world = (.ok content, world) :=
    congrArg (·, world) readable
  have spent : (budget.nanoseconds == 0) = false := beq_false_of_ne within
  simp only [fetch, fetchFile, spent, Bool.false_eq_true, if_false]
  rw [StateT.run_bind, read]
  rfl

/-- Saving a text leaves a file with the bytes of the text. -/
theorem read_of_writeText {path text : String} {world after : World}
    (saved : (Machine.writeText path text : StateM World (Except FileFault Unit)).run world = (.ok (), after)) :
    after.disk.read path = .ok (bytes text.toList) := by
  have changed : World.changeDisk (·.write path (bytes text.toList)) world = (.ok (), after) := saved
  cases written : world.disk.write path (bytes text.toList) with
  | error fault =>
    simp only [World.changeDisk, written] at changed
    cases changed
  | ok disk =>
    simp only [World.changeDisk, written] at changed
    cases changed
    exact Disk.read_of_write written

/-- A file that can be read in time gives a text, whatever its bytes are.

If they are the bytes of a text, that is the text, without one leading mark. Of any bytes, each of the longest texts
among those behind a mark stands in it as it is and in its place, and what is between two of them, or around them,
is replaced, with at most one replacement for each byte. A text that begins with no mark is found again when it
was saved. -/
theorem fetch_file_text {path : String} {budget : Duration} {world : World} {content : List UInt8}
    (readable : world.disk.read path = .ok content) (within : budget.nanoseconds ≠ 0) :
    ∃ body : String,
      (fetch (.file path) budget : StateM World (Except SourceError String)).run world = (.ok body, world) ∧
      (∀ text, content = bytes text → body.toList = unmarked text) ∧
      (∃ parts, Cut parts ∧ joined parts = Text.withoutMark content ∧ Shown parts body.toList ∧
        ∀ before text after, MaximalRun (Text.withoutMark content) before text after ↔
          ∃ left right, parts = left ++ .text text :: right ∧ before = joined left ∧ after = joined right) ∧
      (body.toList.head? ≠ some '\uFEFF' → ∀ other after,
        (Machine.writeText other body : StateM World (Except FileFault Unit)).run world = (.ok (), after) →
          (fetch (.file other) budget : StateM World (Except SourceError String)).run after = (.ok body, after)) := by
  refine ⟨_, fetch_file_run readable within, ?_, ?_, ?_⟩
  · intro text encoded
    rw [String.toList_ofList, encoded, Text.withoutMark_bytes, Text.decodeLossy_bytes]
  · obtain ⟨parts, cut, whole⟩ := Cut.exists_cut (Text.withoutMark content)
    rw [String.toList_ofList, ← whole]
    exact ⟨parts, cut, rfl, cut.shown, fun before text after => cut.maximalRun_iff⟩
  · intro unmarked_ other after saved
    -- What was saved are the bytes of a text with no mark in front.
    rw [fetch_file_run (read_of_writeText saved) within, Text.withoutMark_bytes, Text.unmarked_eq unmarked_,
      Text.decodeLossy_bytes, String.ofList_toList]

/-- A machine with one file. -/
def oneFile (content : List UInt8) : World := ⟨⟨[(["f"], .file content)], []⟩, [], ⟨0⟩, "", ""⟩

/-- A byte that begins no character is replaced. -/
theorem decodeLossy_stray (rest : List UInt8) :
    Text.decodeLossy (0xFF :: rest) = '�' :: Text.decodeLossy rest := by
  rw [Text.decodeLossy, Text.runs]
  rfl

/-- A broken byte in front of a letter is replaced; what was read is read again once it was saved. -/
theorem fetch_file_text_broken :
    (fetch (.file "f") ⟨1⟩ : StateM World (Except SourceError String)).run (oneFile [0xFF, 0xC3, 0xA9]) =
      (.ok "�é", oneFile [0xFF, 0xC3, 0xA9]) ∧
    ∃ after, (Machine.writeText "g" "�é" : StateM World (Except FileFault Unit)).run
        (oneFile [0xFF, 0xC3, 0xA9]) = (.ok (), after) ∧
      (fetch (.file "g") ⟨1⟩ : StateM World (Except SourceError String)).run after = (.ok "�é", after) := by
  have readable : (oneFile [0xFF, 0xC3, 0xA9]).disk.read "f" = .ok [0xFF, 0xC3, 0xA9] := rfl
  have decoded : Text.decodeLossy [0xFF, 0xC3, 0xA9] = ['�', 'é'] := by
    rw [decodeLossy_stray]
    exact congrArg ('�' :: ·) (Text.decodeLossy_bytes ['é'])
  obtain ⟨body, ran, -, -, again⟩ := @fetch_file_text "f" ⟨1⟩ _ _ readable (by decide)
  have shown : body = "�é" := by
    have read := (@fetch_file_run "f" ⟨1⟩ _ _ readable (by decide)).symm.trans ran
    cases read
    show String.ofList (Text.decodeLossy [0xFF, 0xC3, 0xA9]) = _
    rw [decoded]
  subst shown
  exact ⟨ran, _, rfl, again (by decide) "g" _ rfl⟩

/-- Such a byte is broken by itself. -/
theorem broken_stray : Text.Broken [0xFF] := by
  intro before c after parted
  obtain ⟨first, others, encoded, scanned⟩ := Text.scan_encoded c []
  rw [encoded] at parted
  cases before with
  | nil =>
    obtain ⟨rfl, -⟩ := List.cons.inj parted
    cases scanned
  | cons byte before =>
    have nothing := (List.cons.inj parted).2
    simp at nothing

/-- A mark in front of a broken byte is the longest text there, and yet does not stay. -/
theorem fetch_file_text_marked :
    MaximalRun [0xEF, 0xBB, 0xBF, 0xFF] [] ['\uFEFF'] [0xFF] ∧
    (fetch (.file "f") ⟨1⟩ : StateM World (Except SourceError String)).run (oneFile [0xEF, 0xBB, 0xBF, 0xFF]) =
      (.ok "�", oneFile [0xEF, 0xBB, 0xBF, 0xFF]) ∧
    '\uFEFF' ∉ "�".toList := by
  refine ⟨?_, ?_, by decide⟩
  · have cut : Cut [.text ['\uFEFF'], .broken [0xFF]] := by
      refine .cons ⟨by decide, by simp, by simp [Part.isText]⟩ (.cons ⟨by decide, ?_, by simp⟩ .nil)
      intro raw same
      cases same
      exact broken_stray
    exact cut.maximalRun_iff.mpr ⟨[], [.broken [0xFF]], rfl, rfl, rfl⟩
  · have readable : (oneFile [0xEF, 0xBB, 0xBF, 0xFF]).disk.read "f" = .ok [0xEF, 0xBB, 0xBF, 0xFF] := rfl
    have decoded : Text.decodeLossy [0xFF] = ['�'] := by
      rw [decodeLossy_stray]
      exact congrArg ('�' :: ·) (Text.decodeLossy_bytes [])
    rw [@fetch_file_run "f" ⟨1⟩ _ _ readable (by decide), Text.withoutMark, decoded]

end Source

end Placard
