import Placard.Proofs.Pattern.Settling

/-! The search for a match finds one wherever there is any, and none starts before it. -/

namespace Placard.Pattern

variable {program : Array Instruction} {text : List Char}

/-! ### Threads and the runs that they stand for -/

/-- A thread at a place comes from the start of the program, at a place of the text up to a last one. -/
structure Began (program : Array Instruction) (text : List Char) (place last : Nat) (thread : Thread) :
    Prop where
  inside : thread.address < program.size
  /-- Every run that goes on from the thread is the end of one from the start, with the thread's notes. -/
  origin : ∃ start noted, start ≤ last ∧ thread.notes = noted ++ [(0, start)] ∧
    ∀ {steps stop later}, Runs program text steps thread.address place stop later →
      ∃ more, Runs program text more 0 start stop (later ++ noted)

/-- Some run goes on from a thread at a place. -/
def Alive (program : Array Instruction) (text : List Char) (place : Nat) (thread : Thread) : Prop :=
  ∃ steps stop notes, Runs program text steps thread.address place stop notes

/-- The match that ends at a place with the notes of its thread. -/
def Match.ofNotes (place : Nat) (notes : Notes) : Match := ⟨(notes.getLast?.map (·.2)).getD place, place, notes⟩

/-- A match is made by a run of the program from a place up to a last one. -/
def Made (program : Array Instruction) (text : List Char) (last : Nat) (found : Match) : Prop :=
  found.start ≤ last ∧ ∃ noted steps, found.notes = noted ++ [(0, found.start)] ∧
    Runs program text steps 0 found.start found.stop noted

section

variable {place last : Nat} {thread : Thread}

/-- A later bound holds as well. -/
theorem Began.mono {later : Nat} (began : Began program text place last thread) (beyond : last ≤ later) :
    Began program text place later thread := by
  obtain ⟨inside, start, noted, early, same, goes⟩ := began
  exact ⟨inside, start, noted, Nat.le_trans early beyond, same, goes⟩

/-- A thread at the start of the program comes from there. -/
theorem began_start (filled : 0 < program.size) (place : Nat) :
    Began program text place place ⟨0, [(0, place)]⟩ :=
  ⟨filled, place, [], Nat.le_refl place, rfl, fun {steps _ _} runs => ⟨steps, by rwa [List.append_nil]⟩⟩

/-- The threads that come next from a thread come from the start as it does. -/
theorem Began.branch (closed : Closed program) (began : Began program text place last thread)
    {next : Thread} (among : next ∈ branches program (.ofPlace text place) thread) :
    Began program text place last next := by
  obtain ⟨noted, step, notes⟩ := mem_branches.mp among
  obtain ⟨-, start, before, early, same, goes⟩ := began
  refine ⟨closed.skips step, start, noted ++ before, early, ?_, fun runs => ?_⟩
  · rw [notes, same, List.append_assoc]
  · rw [← List.append_assoc]
    exact goes (.skip step runs)

/-- A thread goes on behind the character that it reads. -/
theorem advance?_eq_some_iff {c : Char} {next : Thread} :
    advance? program c thread = some next ↔ ∃ set, program[thread.address]? = some (.read set) ∧
      set.contains c = true ∧ next = ⟨thread.address + 1, thread.notes⟩ := by
  unfold advance?
  constructor
  · intro moved
    split at moved
    · rename_i set here
      split at moved
      · rename_i among
        cases moved
        exact ⟨set, here, among, rfl⟩
      · cases moved
    · cases moved
  · rintro ⟨set, here, among, rfl⟩
    rw [here]
    exact if_pos among

/-- A thread that has read a character comes from the start as it did before. -/
theorem Began.advance (closed : Closed program) (began : Began program text place last thread) {c : Char}
    (stands : text[place]? = some c) {next : Thread} (moved : advance? program c thread = some next) :
    Began program text (place + 1) last next := by
  obtain ⟨set, here, among, rfl⟩ := advance?_eq_some_iff.mp moved
  obtain ⟨-, start, noted, early, same, goes⟩ := began
  exact ⟨closed _ _ here _ (List.mem_singleton_self _), start, noted, early, same,
    fun runs => goes (.read here stands among runs)⟩

/-- What settles from threads that come from the start comes from there too. -/
theorem settle_began (closed : Closed program) {pending : List Thread}
    (each : ∀ thread ∈ pending, Began program text place last thread) :
    ∀ thread ∈ settle program (.ofPlace text place) ∅ program.size pending,
      Began program text place last thread :=
  settle_keeps (fun began among => began.branch closed among) each

/-- Of threads from which some run goes on, one settles from which it does, and waits. -/
theorem settle_alive (closed : Closed program) {pending : List Thread}
    (inside : ∀ thread ∈ pending, thread.address < program.size)
    (alive : ∃ thread ∈ pending, Alive program text place thread) :
    ∃ thread ∈ settle program (.ofPlace text place) ∅ program.size pending,
      Alive program text place thread ∧ waits program thread.address = true := by
  obtain ⟨reached, -, begins, each⟩ := settle_reaches (.ofPlace text place) closed (room_empty program) inside
  obtain ⟨thread, among, steps, stop, notes, runs⟩ := alive
  have own := begins thread among
  generalize thread.address = address at own runs
  -- The run is followed over addresses that are reached, up to the first where it waits.
  induction runs with
  | @done address place here =>
    have waiting : waits program address = true := by rw [waits, here]
    obtain ⟨held, settled, rfl⟩ := (each address own Std.HashSet.not_mem_empty).2 waiting
    exact ⟨held, settled, ⟨0, place, [], .done here⟩, waiting⟩
  | @read steps address place stop set c notes here stands contained rest _ =>
    have waiting : waits program address = true := by rw [waits, here]
    obtain ⟨held, settled, rfl⟩ := (each address own Std.HashSet.not_mem_empty).2 waiting
    exact ⟨held, settled, ⟨_, stop, notes, .read here stands contained rest⟩, waiting⟩
  | skip step _ ih =>
    exact ih each ((each _ own Std.HashSet.not_mem_empty).1 _ _ step)

/-- Where a run goes on from a thread that reads, the thread has a character to read. -/
theorem Alive.advance {set : CharSet} (alive : Alive program text place thread)
    (here : program[thread.address]? = some (.read set)) :
    ∃ c next, text[place]? = some c ∧ advance? program c thread = some next ∧
      Alive program text (place + 1) next := by
  obtain ⟨steps, stop, notes, runs⟩ := alive
  obtain ⟨fewer, c, -, stands, among, rest⟩ := (runs_read here).mp runs
  exact ⟨c, _, stands, advance?_eq_some_iff.mpr ⟨set, here, among, rfl⟩, fewer, stop, notes, rest⟩

/-- A thread at the end of the program has made a match. -/
theorem Began.made (began : Began program text place last thread)
    (ends : program[thread.address]? = some .done) :
    Made program text last (.ofNotes place thread.notes) := by
  obtain ⟨-, start, noted, early, same, goes⟩ := began
  obtain ⟨steps, runs⟩ := goes (.done ends)
  have first : (thread.notes.getLast?.map (·.2)).getD place = start := by simp [same]
  unfold Made Match.ofNotes
  rw [first]
  exact ⟨early, noted, steps, same, by rwa [List.nil_append] at runs⟩

end

/-! ### Threads up to the first that ends -/

/-- A thread at the end of the program ends what is done before it. -/
theorem untilDone_done {thread : Thread} (ends : program[thread.address]? = some .done)
    (others : List Thread) : untilDone program (thread :: others) = ([], some thread.notes) := by
  rw [untilDone, ends]

/-- A thread elsewhere stands before what is done. -/
theorem untilDone_going {thread : Thread} (going : program[thread.address]? ≠ some .done)
    (others : List Thread) :
    untilDone program (thread :: others) =
      (thread :: (untilDone program others).1, (untilDone program others).2) := by
  rw [untilDone]
  split
  · rename_i here
    exact absurd here going
  · rfl

/-- Threads stand before the first that ends, which is one of them, or all of them stand. -/
theorem untilDone_cases (program : Array Instruction) (threads rest : List Thread) :
    (∃ before thread after, threads = before ++ thread :: after ∧
      program[thread.address]? = some .done ∧
      untilDone program (threads ++ rest) = (before, some thread.notes)) ∨
    (∀ thread ∈ threads, program[thread.address]? ≠ some .done) ∧
      untilDone program (threads ++ rest) =
        (threads ++ (untilDone program rest).1, (untilDone program rest).2) := by
  induction threads with
  | nil => exact .inr ⟨fun _ among => (nomatch among), rfl⟩
  | cons thread others ih =>
    by_cases ends : program[thread.address]? = some .done
    · exact .inl ⟨[], thread, others, rfl, ends, untilDone_done ends _⟩
    · rw [List.cons_append, untilDone_going ends]
      rcases ih with ⟨before, found, after, rfl, here, same⟩ | ⟨none_, same⟩
      · exact .inl ⟨thread :: before, found, after, rfl, here, by rw [same]⟩
      · exact .inr ⟨List.forall_mem_cons.mpr ⟨ends, none_⟩, by rw [same]; rfl⟩

/-! ### One place of the text -/

/-- What is known at a place: the match so far, and the threads that go on, preferred ones first. -/
structure Progress where
  best : Option Match
  arrivals : List Thread

namespace Progress

/-- As long as nothing is found, a match may also start at a place, after all that started earlier. -/
def joined (place : Nat) (progress : Progress) : Progress :=
  ⟨progress.best,
    if progress.best.isSome then progress.arrivals else progress.arrivals ++ [⟨0, [(0, place)]⟩]⟩

/-- The match so far and the threads that wait to read, once the threads at a place have settled. -/
def settled (program : Array Instruction) (text : List Char) (place : Nat) (progress : Progress) :
    Progress :=
  let (alive, ended) :=
    untilDone program (settle program (.ofPlace text place) ∅ program.size progress.arrivals)
  ⟨match ended with
    | some notes => some (.ofNotes place notes)
    | none => progress.best, alive⟩

/-- The match so far and the threads that go on behind a character. -/
def read (program : Array Instruction) (c : Char) (progress : Progress) : Progress :=
  ⟨progress.best, progress.arrivals.filterMap (advance? program c)⟩

/-- What is known behind a place is what holds of the place and passes over its character. -/
theorem searchFrom_eq (place : Nat) (progress : Progress) :
    searchFrom program progress.best progress.arrivals (charBefore? text place) place (text.drop place) =
      let here := (progress.joined place).settled program text place
      match text[place]? with
      | none => here.best
      | some c =>
        let next := here.read program c
        if next.arrivals.isEmpty && next.best.isSome then next.best
        else searchFrom program next.best next.arrivals (charBefore? text (place + 1)) (place + 1)
          (text.drop (place + 1)) := by
  -- The search looks at the head of what is left, which is the character at the place.
  cases stands : text[place]? with
  | none =>
    have spot : (⟨place, charBefore? text place, none⟩ : Spot) = .ofPlace text place := by
      rw [Spot.ofPlace, stands]
    rw [List.drop_eq_nil_of_le (List.getElem?_eq_none_iff.mp stands), searchFrom]
    rw [List.head?_nil, spot]
    rfl
  | some c =>
    have spot : (⟨place, charBefore? text place, some c⟩ : Spot) = .ofPlace text place := by
      rw [Spot.ofPlace, stands]
    have opens : text.drop place = c :: text.drop (place + 1) := by
      obtain ⟨inside, rfl⟩ := List.getElem?_eq_some_iff.mp stands
      exact List.drop_eq_getElem_cons inside
    have behind : charBefore? text (place + 1) = some c := stands
    rw [opens, searchFrom, behind]
    rw [List.head?_cons, spot]
    rfl

variable {place : Nat} {progress : Progress}

/-- When threads have settled, the first that ends makes the match, or all in front of others wait. -/
theorem settled_cases {front rest : List Thread}
    (settles : settle program (.ofPlace text place) ∅ program.size progress.arrivals = front ++ rest) :
    (∃ before thread after, front = before ++ thread :: after ∧ program[thread.address]? = some .done ∧
      progress.settled program text place = ⟨some (.ofNotes place thread.notes), before⟩) ∨
    (∀ thread ∈ front, program[thread.address]? ≠ some .done) ∧
      ∃ best back, progress.settled program text place = ⟨best, front ++ back⟩ ∧
        (rest = [] → best = progress.best ∧ back = []) := by
  unfold settled
  rw [settles]
  rcases untilDone_cases program front rest with
    ⟨before, thread, after, split, ends, stops⟩ | ⟨going, stops⟩
  · exact .inl ⟨before, thread, after, split, ends, by rw [stops]⟩
  · refine .inr ⟨going, _, _, by rw [stops], ?_⟩
    rintro rfl
    exact ⟨rfl, rfl⟩

/-! ### No match and no thread from nowhere -/

/-- The match so far is made by a run, and every thread comes from the start of the program. -/
structure Sound (program : Array Instruction) (text : List Char) (place : Nat) (progress : Progress) :
    Prop where
  best : ∀ found, progress.best = some found → Made program text place found
  arrivals : ∀ thread ∈ progress.arrivals, Began program text place place thread

/-- Before the text nothing is known. -/
theorem Sound.nothing (program : Array Instruction) (text : List Char) :
    (⟨none, []⟩ : Progress).Sound program text 0 where
  best := by rintro found ⟨⟩
  arrivals := by rintro thread ⟨⟩

/-- A thread that starts at a place comes from the start. -/
theorem Sound.joined (sound : progress.Sound program text place) (filled : 0 < program.size) :
    (progress.joined place).Sound program text place := by
  refine ⟨sound.best, fun thread among => ?_⟩
  rw [Progress.joined] at among
  split at among
  · exact sound.arrivals thread among
  · rcases List.mem_append.mp among with earlier | starts
    · exact sound.arrivals thread earlier
    · exact List.mem_singleton.mp starts ▸ began_start filled place

/-- What settles comes from the start, and a thread that ends has made a match. -/
theorem Sound.settled (sound : progress.Sound program text place) (closed : Closed program) :
    (progress.settled program text place).Sound program text place := by
  have each := settle_began closed sound.arrivals
  rcases settled_cases (List.append_nil _).symm with
    ⟨before, thread, after, split, ends, same⟩ | ⟨-, best, back, same, only⟩
  · rw [same]
    refine ⟨?_, fun other among => each other (by simp [split, show other ∈ before from among])⟩
    rintro found ⟨⟩
    exact (each thread (by simp [split])).made ends
  · obtain ⟨rfl, rfl⟩ := only rfl
    rw [same, List.append_nil]
    exact ⟨sound.best, each⟩

/-- Behind a character the threads that go on come from the start as before. -/
theorem Sound.read (sound : progress.Sound program text place) (closed : Closed program) {c : Char}
    (stands : text[place]? = some c) : (progress.read program c).Sound program text (place + 1) := by
  refine ⟨fun found is_ => ?_, fun thread among => ?_⟩
  · obtain ⟨early, made⟩ := sound.best found is_
    exact ⟨Nat.le_succ_of_le early, made⟩
  · obtain ⟨earlier, member, moved⟩ := List.mem_filterMap.mp among
    exact ((sound.arrivals earlier member).advance closed stands moved).mono (Nat.le_succ place)

/-! ### No run is passed over -/

/-- A match that starts up to a place is found, or a thread that has started up to there goes on.

The threads in front have all started up to that place, so no later one can come before them. -/
def Leads (program : Array Instruction) (text : List Char) (start place : Nat) (progress : Progress) : Prop :=
  ∃ front back, progress.arrivals = front ++ back ∧
    (∀ thread ∈ front, Began program text place start thread) ∧
    ((∃ found, progress.best = some found ∧ found.start ≤ start ∧ back = []) ∨
      ∃ thread ∈ front, Alive program text place thread)

variable {start : Nat}

/-- At a place from which some run starts, a match that starts up to there is on its way. -/
theorem Sound.leads (sound : progress.Sound program text place) (filled : 0 < program.size)
    (alive : Alive program text place ⟨0, [(0, place)]⟩) :
    (progress.joined place).Leads program text place place := by
  refine ⟨_, [], (List.append_nil _).symm, (sound.joined filled).arrivals, ?_⟩
  cases known : progress.best with
  | some found => exact .inl ⟨found, known, (sound.best found known).1, rfl⟩
  | none =>
    refine .inr ⟨_, ?_, alive⟩
    simp [Progress.joined, known]

/-- A thread that starts later stands behind all that are on their way. -/
theorem Leads.joined (leads : progress.Leads program text start place) :
    (progress.joined place).Leads program text start place := by
  obtain ⟨front, back, same, began, found | alive⟩ := leads
  · obtain ⟨found, known, early, rfl⟩ := found
    exact ⟨front, [], by simp [Progress.joined, known, same], began, .inl ⟨found, known, early, rfl⟩⟩
  · -- A new thread comes only where nothing is found, and behind all others.
    cases known : progress.best with
    | some found => exact ⟨front, back, by simp [Progress.joined, known, same], began, .inr alive⟩
    | none =>
      exact ⟨front, back ++ [⟨0, [(0, place)]⟩], by simp [Progress.joined, known, same], began, .inr alive⟩

/-- When threads have settled, a match is found and no later thread is left, or an early one reads on. -/
theorem Leads.settled (leads : progress.Leads program text start place) (closed : Closed program) :
    ∃ front back, (progress.settled program text place).arrivals = front ++ back ∧
      (∀ thread ∈ front, Began program text place start thread) ∧
      ((∃ found, (progress.settled program text place).best = some found ∧ found.start ≤ start ∧
          back = []) ∨
        ∃ thread ∈ front, Alive program text place thread ∧
          ∃ set, program[thread.address]? = some (.read set)) := by
  obtain ⟨front, back, same, began, leads⟩ := leads
  obtain ⟨rest, settles⟩ :=
    settle_append program (.ofPlace text place) ∅ program.size front back
  have each := settle_began closed began
  rcases settled_cases (same ▸ settles) with
    ⟨before, thread, after, split, ends, same⟩ | ⟨going, best, behind, same, only⟩
  · -- One in front ends: its match starts early, and so do the threads that stand before it.
    rw [same]
    have made := (each thread (by simp [split])).made ends
    exact ⟨before, [], (List.append_nil before).symm, fun other among => each other (by simp [split, among]),
      .inl ⟨_, rfl, made.1, rfl⟩⟩
  · rw [same]
    refine ⟨_, behind, rfl, each, ?_⟩
    rcases leads with ⟨found, known, early, rfl⟩ | alive
    · obtain ⟨rfl, rfl⟩ := only (by simpa using settles)
      exact .inl ⟨found, known, early, rfl⟩
    · -- None in front has ended, so the one that waits from there on waits to read.
      obtain ⟨thread, settled, lives, waiting⟩ :=
        settle_alive closed (fun thread among => (began thread among).inside) alive
      refine .inr ⟨thread, settled, lives, ?_⟩
      have open_ := going thread settled
      rw [waits] at waiting
      split at waiting
      · rename_i set here
        exact ⟨set, here⟩
      · rename_i here
        exact absurd here open_
      · cases waiting

/-- At the end of the text no thread can read on, so a match is found. -/
theorem Leads.ends (leads : progress.Leads program text start place) (closed : Closed program)
    (none_ : text[place]? = none) :
    ∃ found, (progress.settled program text place).best = some found ∧ found.start ≤ start := by
  obtain ⟨front, back, -, -, found | reads⟩ := leads.settled closed
  · obtain ⟨found, known, early, -⟩ := found
    exact ⟨found, known, early⟩
  · obtain ⟨thread, -, alive, set, here⟩ := reads
    obtain ⟨c, next, stands, -⟩ := alive.advance here
    rw [none_] at stands
    cases stands

/-- Behind a character a match is still on its way. -/
theorem Leads.read (leads : progress.Leads program text start place) (closed : Closed program) {c : Char}
    (stands : text[place]? = some c) :
    ((progress.settled program text place).read program c).Leads program text start (place + 1) := by
  obtain ⟨front, back, same, began, either⟩ := leads.settled closed
  refine ⟨front.filterMap (advance? program c), back.filterMap (advance? program c), ?_,
    fun next among => ?_, ?_⟩
  · rw [Progress.read, same, List.filterMap_append]
  · obtain ⟨thread, member, moved⟩ := List.mem_filterMap.mp among
    exact (began thread member).advance closed stands moved
  · rcases either with ⟨found, known, early, rfl⟩ | ⟨thread, member, alive, set, here⟩
    · exact .inl ⟨found, known, early, rfl⟩
    · obtain ⟨other, next, also_, moved, goes⟩ := alive.advance here
      cases stands.symm.trans also_
      exact .inr ⟨next, List.mem_filterMap.mpr ⟨thread, member, moved⟩, goes⟩

/-! ### The whole search -/

/-- What holds of the progress at each place, and decides what is found, decides the search. -/
theorem searchFrom_keeps (holds : Nat → Progress → Prop) (result : Option Match → Prop)
    (goes : ∀ {place progress c}, holds place progress → text[place]? = some c →
      holds (place + 1) (((progress.joined place).settled program text place).read program c))
    (stops : ∀ {place progress}, holds place progress → progress.arrivals = [] →
      progress.best.isSome = true → result progress.best)
    (ends : ∀ {place progress}, holds place progress → text[place]? = none →
      result ((progress.joined place).settled program text place).best)
    (place : Nat) (progress : Progress) (known : holds place progress) :
    result (searchFrom program progress.best progress.arrivals (charBefore? text place) place
      (text.drop place)) := by
  -- With each character, less of the text is left.
  induction left : text.length - place generalizing place progress with
  | zero =>
    have none_ : text[place]? = none := List.getElem?_eq_none_iff.mpr (by omega)
    rw [searchFrom_eq, none_]
    exact ends known none_
  | succ left ih =>
    have inside : place < text.length := by omega
    have stands : text[place]? = some text[place] := List.getElem?_eq_getElem inside
    rw [searchFrom_eq, stands]
    have next := goes known stands
    dsimp only
    split
    · rename_i stopped
      rw [Bool.and_eq_true, List.isEmpty_iff] at stopped
      exact stops next stopped.1 stopped.2
    · exact ih (place + 1) _ next (by omega)

end Progress

/-- A match that the search finds is made by a run of the program. -/
theorem search?_made (closed : Closed program) (filled : 0 < program.size) {found : Match}
    (searched : search? program text = some found) : Made program text text.length found := by
  refine Progress.searchFrom_keeps
    (fun place progress => place ≤ text.length ∧ progress.Sound program text place)
    (fun searched => ∀ found, searched = some found → Made program text text.length found)
    ?_ ?_ ?_ 0 ⟨none, []⟩ ⟨Nat.zero_le _, .nothing program text⟩ found searched
  · rintro place progress c ⟨-, sound⟩ stands
    obtain ⟨inside, -⟩ := List.getElem?_eq_some_iff.mp stands
    exact ⟨inside, ((sound.joined filled).settled closed).read closed stands⟩
  · rintro place progress ⟨within, sound⟩ - - found is_
    obtain ⟨early, made⟩ := sound.best found is_
    exact ⟨Nat.le_trans early within, made⟩
  · rintro place progress ⟨within, sound⟩ - found is_
    obtain ⟨early, made⟩ := ((sound.joined filled).settled closed).best found is_
    exact ⟨Nat.le_trans early within, made⟩

/-- Where some run of the program starts, the search finds a match that starts no later. -/
theorem search?_finds (closed : Closed program) (filled : 0 < program.size) {start : Nat}
    (within : start ≤ text.length) (alive : Alive program text start ⟨0, [(0, start)]⟩) :
    ∃ found, search? program text = some found ∧ found.start ≤ start := by
  -- What is found before the run starts is early anyway; from there on a match is on its way.
  have onward : ∀ {place} {progress : Progress}, progress.Sound program text place ∧
      (place ≤ start ∨ progress.Leads program text start place) →
      start ≤ place → (progress.joined place).Leads program text start place := by
    rintro place progress ⟨sound, early | leads⟩ late
    · cases Nat.le_antisymm early late
      exact sound.leads filled alive
    · exact leads.joined
  refine Progress.searchFrom_keeps
    (fun place progress => progress.Sound program text place ∧
      (place ≤ start ∨ progress.Leads program text start place))
    (fun searched => ∃ found, searched = some found ∧ found.start ≤ start)
    ?_ ?_ ?_ 0 ⟨none, []⟩ ⟨.nothing program text, .inl (Nat.zero_le start)⟩
  · intro place progress c known stands
    refine ⟨((known.1.joined filled).settled closed).read closed stands, ?_⟩
    rcases Nat.lt_or_ge place start with early | late
    · exact .inl early
    · exact .inr ((onward known late).read closed stands)
  · rintro place progress ⟨sound, early | leads⟩ none_ some_
    · obtain ⟨found, known⟩ := Option.isSome_iff_exists.mp some_
      exact ⟨found, known, Nat.le_trans (sound.best found known).1 early⟩
    · -- Without threads none is on its way, so a match is.
      obtain ⟨front, back, same, -, ⟨found, known, early, -⟩ | ⟨thread, member, -⟩⟩ := leads
      · exact ⟨found, known, early⟩
      · rw [none_] at same
        simp [(List.append_eq_nil_iff.mp same.symm).1] at member
  · intro place progress known none_
    have late := List.getElem?_eq_none_iff.mp none_
    exact (onward known (Nat.le_trans within late)).ends closed none_

/-- A program of a pattern has an instruction that ends the match. -/
theorem program_filled (pattern : Pattern) : 0 < pattern.program.size := by
  simp [program]

/-- Where a pattern matches, its program runs. -/
theorem alive_start {pattern : Pattern} {start : Nat} (matches_ : pattern.MatchesAt text start) :
    Alive pattern.program text start ⟨0, [(0, start)]⟩ := by
  obtain ⟨-, stop, notes, spans⟩ := matches_
  obtain ⟨steps, runs⟩ := runs_program.mpr spans
  exact ⟨steps, stop, notes, runs⟩

/-- A match that is found is a span of the pattern, and the pattern matches nowhere before it. -/
theorem search?_leftmost {pattern : Pattern} {found : Match}
    (searched : search? pattern.program text = some found) :
    found.start ≤ text.length ∧
      (∃ notes, found.notes = notes ++ [(0, found.start)] ∧
        pattern.Spans text found.start found.stop notes) ∧
      ∀ start < found.start, ¬ pattern.MatchesAt text start := by
  obtain ⟨within, notes, steps, same, runs⟩ :=
    search?_made (closed_program pattern) (program_filled pattern) searched
  refine ⟨within, ⟨notes, same, runs_program.mp ⟨steps, runs⟩⟩, fun start before matches_ => ?_⟩
  obtain ⟨other, also_, early⟩ :=
    search?_finds (closed_program pattern) (program_filled pattern) matches_.1 (alive_start matches_)
  cases searched.symm.trans also_
  exact absurd before (Nat.not_lt.mpr early)

/-- Nothing is found exactly where the pattern matches nowhere. -/
theorem search?_eq_none_iff {pattern : Pattern} :
    search? pattern.program text = none ↔ ∀ start, ¬ pattern.MatchesAt text start := by
  constructor
  · intro nothing start matches_
    obtain ⟨found, searched, -⟩ :=
      search?_finds (closed_program pattern) (program_filled pattern) matches_.1 (alive_start matches_)
    rw [nothing] at searched
    cases searched
  · intro nowhere
    cases searched : search? pattern.program text with
    | none => rfl
    | some found =>
      obtain ⟨within, ⟨notes, -, spans⟩, -⟩ := search?_leftmost searched
      exact absurd ⟨within, _, notes, spans⟩ (nowhere found.start)

end Placard.Pattern
