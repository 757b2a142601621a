import Placard.Proofs.Command.Accord
import Placard.Proofs.Command.Arguments
import Placard.Proofs.Command.Together
import Placard.Proofs.Refresh.Accord
import Placard.Proofs.Report.Exchange
import Placard.Proofs.Shell.Accord
import Placard.Source.Fetch

/-! What a command line does does not depend on how its results are shown. -/

namespace Placard

namespace Accord

variable {m m' : Type → Type} [Monad m] [Monad m'] [LawfulMonad m] [LawfulMonad m'] [Machine m]
  [Machine m'] {shown shown' : Presentation} (accord : Accord m m' shown shown')

omit [LawfulMonad m] [LawfulMonad m'] in
/-- The text of a file is read alike. -/
theorem fetchFile (path : String) (budget : Duration) :
    accord.agree Eq (Source.fetchFile path budget) (Source.fetchFile path budget) := by
  unfold Source.fetchFile
  split
  · exact accord.give _
  · refine accord.next (accord.read path) fun found => ?_
    cases found <;> exact accord.give _

/-- The output of a command is read alike. -/
theorem fetchCommand (line : String) (budget : Duration) :
    accord.agree Eq (Source.fetchCommand line budget) (Source.fetchCommand line budget) := by
  unfold Source.fetchCommand
  split
  · exact accord.give _
  · refine accord.next (accord.outputOf line budget) fun found => ?_
    cases found <;> exact accord.give _

/-- The sources of the program are asked alike. -/
theorem fetches : accord.Fetches Source.fetch Source.fetch := by
  intro source budget
  cases source with
  | file path => exact accord.fetchFile path budget
  | command line => exact accord.fetchCommand line budget
  | http request => exact accord.give _

end Accord

/-- A fetcher, with every exchange written down behind those before. -/
def Exchange.recording {m : Type → Type} [Monad m] (fetch : Fetch m) : Fetch (StateT (List Exchange) m) :=
  fun source budget => do
    let answer ← StateT.lift (fetch source budget)
    modify (· ++ [⟨source, budget, answer⟩])
    return answer

variable {ω : Type}

/-- Sources that neither see what is shown nor put anything on the output.

On two machines on which the same was done, they answer and do the same. They may change files, let time pass,
and remember what they were asked. -/
def Aloof (fetch : Fetch (StateT ω (StateM World))) : Prop :=
  ∀ source budget memory (said : String) (world world' : World), SameDeeds (· = said) world world' →
    let asked := ((fetch source budget).run memory).run world
    let asked' := ((fetch source budget).run memory).run world'
    asked'.1 = asked.1 ∧ SameDeeds (· = said) asked.2 asked'.2

/-- The program runs on a machine, with sources that have a memory; it gives an exit code. -/
def programOn (fetch : Fetch (StateT ω (StateM World))) (words : List String) (memory : ω) (world : World) :
    (Nat × ω) × World :=
  ((runProgram (Transport.connect fetch) words).run memory).run world

/-- A command line is run, and what it asks is written down. -/
def recordedOn (fetch : Fetch (StateT ω (StateM World))) (words : List String) (memory : ω) (world : World) :
    ((Ending × List Exchange) × ω) × World :=
  (((runWords (Transport.connect (Exchange.recording fetch)) words).run []).run memory).run world

/-- What a command line does, but for what it shows. -/
structure Effects (ω : Type) where
  ending : Ending
  exitCode : Nat
  disk : Disk
  environment : List (String × String)
  clock : Duration
  /-- The memory of the sources. -/
  memory : ω
  /-- What the sources were asked, in order, with their answers. -/
  asked : List Exchange

/-- What a command line does on a machine, with sources that have a memory. -/
def effects (fetch : Fetch (StateT ω (StateM World))) (words : List String) (memory : ω) (world : World) :
    Effects ω :=
  let done := programOn fetch words memory world
  { ending := (((runWords (Transport.connect fetch) words).run memory).run world).1.1
    exitCode := done.1.1
    disk := done.2.disk
    environment := done.2.environment
    clock := done.2.clock
    memory := done.1.2
    asked := (recordedOn fetch words memory world).1.1.2 }

/-- Runs a command line that was read, if it was understood. -/
def Invocation.conclude {m : Type → Type} [Monad m] [Machine m] (connect : Connect m) :
    Except Usage Invocation → m Ending
  | .error usage => return .refused usage
  | .ok invocation => return Invocation.ending (← (invocation.run connect).run)

namespace Accord

section Recording

variable {m m' : Type → Type} [Monad m] [Monad m'] [LawfulMonad m] [LawfulMonad m'] [Machine m]
  [Machine m'] {shown shown' : Presentation} {accord : Accord m m' shown shown'} {fetch : Fetch m}
  {fetch' : Fetch m'}

omit [Machine m] in
/-- One exchange is written down behind those before. -/
theorem recording_run (source : Source) (budget : Duration) (log : List Exchange) :
    (Exchange.recording fetch source budget).run log =
      fetch source budget >>= fun answer => Pure.pure (answer, log ++ [⟨source, budget, answer⟩]) := by
  simp [Exchange.recording]

/-- Fetchers in accord write the same down. -/
theorem Fetches.recording (fetches : accord.Fetches fetch fetch') :
    (accord.both (List Exchange)).Fetches (Exchange.recording fetch) (Exchange.recording fetch') := by
  intro source budget log
  rw [recording_run, recording_run]
  exact accord.next (fetches source budget) fun answer => accord.pure ⟨rfl, rfl⟩

/-- Writing exchanges down makes no difference. -/
theorem Fetches.beside (fetches : accord.Fetches fetch fetch') :
    (accord.beside (List Exchange)).Fetches (Exchange.recording fetch) fetch' := by
  intro source budget log
  have bound : accord.agree (fun ended value => ended.1 = value) ((Exchange.recording fetch source budget).run log)
      (fetch' source budget >>= Pure.pure) := by
    rw [recording_run]
    exact accord.next (fetches source budget) fun answer => accord.pure rfl
  rwa [bind_pure] at bound

/-- Command lines that ask for the same end alike, and answer nothing on the output. -/
theorem Connects.conclude {connect : Connect m} {connect' : Connect m'}
    (connects : accord.Connects connect connect') {command : Command} (sources : Sources)
    (scriptless : ∀ shell, command ≠ .completions shell) :
    accord.agree (fun ending ending' => ending' = ending ∧ ending.answer = "")
      (Invocation.conclude connect (.ok ⟨command, sources, shown⟩))
      (Invocation.conclude connect' (.ok ⟨command, sources, shown'⟩)) := by
  refine accord.bind (connects.run sources scriptless) fun result result' same => accord.pure ?_
  -- A failure complains and a success says nothing more; neither answers.
  cases same with
  | error failure => exact ⟨rfl, rfl⟩
  | ok _ => exact ⟨rfl, rfl⟩

end Recording

/-- Aloof sources are in accord with themselves, and show nothing. -/
theorem fetches_of_aloof {fetch : Fetch (StateT ω (StateM World))} (aloof : Aloof fetch)
    (shown shown' : Presentation) (held : String → Prop)
    (kept : shown.quiet = false → ∀ said text, held said → held (said ++ text)) :
    ((Accord.worlds shown shown' held kept).both ω).Fetches fetch fetch := by
  intro source budget memory world world' near
  -- The sources leave the output of the first machine as it was, so what holds of it goes on to hold.
  obtain ⟨answers, left⟩ := aloof source budget memory world.said world world' { near with said := rfl }
  have said := left.said
  exact ⟨⟨congrArg Prod.fst answers.symm, congrArg Prod.snd answers.symm⟩, { left with said := said ▸ near.said }⟩

/-- Sources that are in accord with themselves are aloof. -/
theorem aloof_of_fetches {fetch : Fetch (StateT ω (StateM World))}
    (fetches : ∀ {shown shown' : Presentation} (accord : Accord (StateT ω (StateM World)) (StateT ω (StateM World))
      shown shown'), accord.Fetches fetch fetch) : Aloof fetch := by
  intro source budget memory said world world' near
  -- Where nothing may be put out, nothing is.
  have quiet : ({ quiet := true } : Presentation).quiet = false →
      ∀ before text, before = said → before ++ text = said := fun loud => nomatch loud
  obtain ⟨⟨answer, left⟩, deeds⟩ :=
    fetches ((Accord.worlds { quiet := true } { quiet := true } (· = said) quiet).both ω) source budget memory
      world world' near
  exact ⟨Prod.ext answer.symm left.symm, deeds⟩

end Accord

/-- The sources of the program are aloof: files, commands and web addresses. -/
theorem Source.fetch_aloof : Aloof (Source.fetch : Fetch (StateT ω (StateM World))) :=
  Accord.aloof_of_fetches fun accord => accord.fetches

/-! ### The whole program -/

/-- An ending that has no answer leaves the output as it is. -/
theorem Ending.closed_said {ending : Ending} (silent : ending.answer = "") (world : World) :
    (ending.closed world).said = world.said := by
  rw [Ending.closed, silent, String.append_empty]

/-- The program reads a command line with the variables of the machine, and runs it. -/
theorem runWords_eq {m : Type → Type} [Monad m] [Machine m] (connect : Connect m) (words : List String) :
    runWords connect words = Machine.environment >>= fun environment =>
      Invocation.conclude connect (Invocation.read environment words) := by
  refine congrArg (Machine.environment >>= ·) (funext fun environment => ?_)
  cases Invocation.read environment words with
  | error usage => rfl
  | ok invocation =>
    refine congrArg ((invocation.run connect).run >>= ·) (funext fun result => ?_)
    cases result <;> rfl

/-- The program tells in the end how a command line ended; the sources remember what they did before. -/
theorem programOn_eq (fetch : Fetch (StateT ω (StateM World))) (words : List String) (memory : ω)
    (world : World) :
    programOn fetch words memory world =
      let ((ending, left), after) := ((runWords (Transport.connect fetch) words).run memory).run world
      ((ending.exitCode, left), ending.closed after) := by
  rw [programOn, runProgram, StateT.run_bind, StateT.run_bind]
  rcases ((runWords (Transport.connect fetch) words).run memory).run world with ⟨⟨ending, left⟩, after⟩
  rw [id_bind_eq]
  -- What is empty is not put out, which comes to the same.
  by_cases quiet : ending.answer = "" <;> by_cases calm : ending.complaint = ""
  · simp [quiet, calm, Ending.closed]
  · simp only [quiet, calm, Ending.closed, bne_iff_ne, ne_eq, not_true_eq_false, not_false_eq_true, if_true,
      if_false, String.append_empty]
    rfl
  · simp only [quiet, calm, Ending.closed, bne_iff_ne, ne_eq, not_true_eq_false, not_false_eq_true, if_true,
      if_false, String.append_empty]
    rfl
  · simp only [quiet, calm, Ending.closed, bne_iff_ne, ne_eq, not_false_eq_true, if_true]
    rfl

section Program

variable {fetch : Fetch (StateT ω (StateM World))} {memory : ω} {world : World}

/-- A command line that was read is run on a machine. -/
def concluded (fetch : Fetch (StateT ω (StateM World))) (memory : ω) (world : World)
    (read : Except Usage Invocation) : (Ending × ω) × World :=
  ((Invocation.conclude (Transport.connect fetch) read).run memory).run world

/-- A command line that was read is run on a machine, and what it asks is written down. -/
def noted (fetch : Fetch (StateT ω (StateM World))) (memory : ω) (world : World)
    (read : Except Usage Invocation) : ((Ending × List Exchange) × ω) × World :=
  (((Invocation.conclude (Transport.connect (Exchange.recording fetch)) read).run []).run memory).run world

/-- The program runs the command line that it reads. -/
theorem runWords_concluded (words : List String) :
    ((runWords (Transport.connect fetch) words).run memory).run world =
      concluded fetch memory world (Invocation.read world.environment words) := by
  rw [runWords_eq]
  rfl

/-- The program runs the command line that it reads, and what it asks is written down. -/
theorem recordedOn_eq (words : List String) :
    recordedOn fetch words memory world = noted fetch memory world (Invocation.read world.environment words) := by
  rw [recordedOn, runWords_eq]
  rfl

/-- What a command line does is what it does once it is read. -/
theorem effects_eq (words : List String) :
    let read := Invocation.read world.environment words
    let done := concluded fetch memory world read
    effects fetch words memory world = ⟨done.1.1, done.1.1.exitCode, done.2.disk, done.2.environment,
      done.2.clock, done.1.2, (noted fetch memory world read).1.1.2⟩ := by
  intro read done
  rw [effects, programOn_eq, runWords_concluded, recordedOn_eq]
  rfl

section Understood

variable (aloof : Aloof fetch) {command : Command} (scriptless : ∀ shell, command ≠ .completions shell)
  (sources : Sources) (shown shown' : Presentation)

include aloof scriptless

/-- A command ends alike and does the same in whatever way its results are shown; where nothing is put on the
output in one of these ways, what holds of the output goes on to hold. -/
theorem concluded_shown {held : String → Prop} (said : held world.said)
    (kept : shown.quiet = false → ∀ said text, held said → held (said ++ text)) :
    let done := concluded fetch memory world (.ok ⟨command, sources, shown⟩)
    let done' := concluded fetch memory world (.ok ⟨command, sources, shown'⟩)
    done'.1 = done.1 ∧ done.1.1.answer = "" ∧ SameDeeds held done.2 done'.2 := by
  intro done done'
  -- The memory of the sources is a state beside the machine.
  let accord := (Accord.worlds shown shown' held kept).both ω
  have connects : accord.Connects (Transport.connect fetch) (Transport.connect fetch) :=
    accord.connect (Accord.fetches_of_aloof aloof shown shown' held kept)
  obtain ⟨⟨⟨ending, answer⟩, left⟩, deeds⟩ :=
    connects.conclude sources scriptless memory world world ⟨rfl, rfl, rfl, said⟩
  exact ⟨Prod.ext ending left.symm, answer, deeds⟩

/-- A command asks the same sources in the same order in whatever way its results are shown. -/
theorem noted_shown :
    (noted fetch memory world (.ok ⟨command, sources, shown'⟩)).1.1.2 =
      (noted fetch memory world (.ok ⟨command, sources, shown⟩)).1.1.2 := by
  let accord := (Accord.worlds shown shown' (fun _ => True) fun _ _ _ _ => trivial).both ω
  have fetches : accord.Fetches fetch fetch := Accord.fetches_of_aloof aloof shown shown' _ _
  have connects := (accord.both (List Exchange)).connect fetches.recording
  obtain ⟨⟨⟨-, log⟩, -⟩, -⟩ :=
    Accord.Connects.conclude connects sources scriptless [] memory world world ⟨rfl, rfl, rfl, trivial⟩
  exact log.symm

/-- Writing down what a command asks makes no difference to what it does. -/
theorem noted_beside :
    let written := noted fetch memory world (.ok ⟨command, sources, shown⟩)
    let done := concluded fetch memory world (.ok ⟨command, sources, shown⟩)
    (written.1.1.1, written.1.2, written.2.disk) = (done.1.1, done.1.2, done.2.disk) := by
  intro written done
  let accord := (Accord.worlds shown shown (fun _ => True) fun _ _ _ _ => trivial).both ω
  have fetches : accord.Fetches fetch fetch := Accord.fetches_of_aloof aloof shown shown _ _
  have connects := (accord.beside (List Exchange)).connect fetches.beside
  obtain ⟨⟨⟨ending, -⟩, left⟩, deeds⟩ :=
    Accord.Connects.conclude connects sources scriptless [] memory world world ⟨rfl, rfl, rfl, trivial⟩
  exact Prod.ext ending.symm (Prod.ext left deeds.disk.symm)

end Understood

variable {words words' : List String}

/-- Two command lines that differ in nothing but how results are shown do the same, and ask the same sources
in the same order; one that is to be quiet puts nothing on the output.

The record of what is asked is that of the same run: keeping it makes no difference. -/
theorem effects_restyled (aloof : Aloof fetch) (restyled : Restyled world.environment words words')
    (scriptless : ∀ invocation, Invocation.read world.environment words = .ok invocation →
      ∀ shell, invocation.command ≠ .completions shell) :
    let done := effects fetch words memory world
    let recorded := recordedOn fetch words memory world
    effects fetch words' memory world = done ∧
      (recorded.1.1.1, recorded.1.2, recorded.2.disk) = (done.ending, done.memory, done.disk) ∧
      ∀ invocation, Invocation.read world.environment words' = .ok invocation →
        invocation.presentation.quiet = true → (programOn fetch words' memory world).2.said = world.said := by
  intro done recorded
  simp only [recorded, done, effects_eq, recordedOn_eq]
  rcases restyled.read.either with ⟨usage, here, there⟩ | ⟨invocation, invocation', same, here, there⟩
  · -- A command line that is refused does nothing at all.
    refine ⟨by rw [here, there], by rw [here]; rfl, ?_⟩
    exact fun invocation understood => nomatch there.symm.trans understood
  · obtain ⟨command, sources, shown⟩ := invocation
    obtain ⟨_, _, shown'⟩ := invocation'
    obtain ⟨rfl, rfl⟩ : _ = command ∧ _ = sources := same
    have apart := scriptless _ here
    rw [here, there]
    refine ⟨?same, noted_beside aloof apart _ shown, ?quiet⟩
    case same =>
      -- Nothing is asked of the output here.
      have always : shown.quiet = false → ∀ said text : String, True → True := fun _ _ _ _ => trivial
      obtain ⟨ends, -, deeds⟩ := concluded_shown aloof apart _ shown shown' trivial always
      rw [ends, noted_shown aloof apart _ shown shown', deeds.disk, deeds.environment, deeds.clock]
    case quiet =>
      rintro invocation ⟨⟩ quiet
      -- The quiet command line stands first here, and its output stays what it was.
      have kept : shown'.quiet = false → ∀ said text, world.said = said → world.said = said ++ text :=
        fun loud => nomatch loud.symm.trans quiet
      obtain ⟨-, answer, deeds⟩ := concluded_shown aloof apart _ shown' shown' rfl kept
      rw [programOn_eq, runWords_concluded, there]
      exact (Ending.closed_said answer _).trans deeds.said.symm

/-- A template is filled loudly as JSON by one command line, and in silence by another one. -/
theorem effects_restyled_silent :
    let words := ["--output", "json", "-vv", "render", "-t", "\x7bAPI:a\x7d"]
    let words' := ["--color", "always", "render", "-q", "-t", "\x7bAPI:a\x7d"]
    let world : World := ⟨⟨[], []⟩, [("HOME", "/h")], ⟨0⟩, "", ""⟩
    Restyled world.environment words words' ∧
      effects Source.fetch words' () world = effects Source.fetch words () world ∧
      (programOn Source.fetch words' () world).2.said = "" := by
  intro words words' world
  let template := "\x7bAPI:a\x7d"
  let command := Command.render ⟨some template, none, none⟩ false
  have given : Command.readWords world.environment words = .ok
      [(.top, [(.output, "json"), (.verbose, ""), (.verbose, "")]), (.render, [(.template, template)])] := by rfl
  have given' : Command.readWords world.environment words' = .ok
      [(.top, [(.color, "always")]), (.render, [(.quiet, ""), (.template, template)])] := by rfl
  have read : Invocation.read world.environment words = .ok ⟨command, {}, ⟨.json, .auto, false⟩⟩ := by rfl
  have read' : Invocation.read world.environment words' = .ok ⟨command, {}, ⟨.table, .always, true⟩⟩ := by rfl
  have restyled : Restyled world.environment words words' := by
    rw [Restyled, given, given']
    exact .ok rfl
  have scriptless : ∀ invocation, Invocation.read world.environment words = .ok invocation →
      ∀ shell, invocation.command ≠ .completions shell := by
    intro invocation understood shell
    cases read.symm.trans understood
    exact fun same => nomatch same
  obtain ⟨same, -, silent⟩ :=
    @effects_restyled Unit Source.fetch () world words words' Source.fetch_aloof restyled scriptless
  exact ⟨restyled, same, silent _ read' rfl⟩

end Program

end Placard
