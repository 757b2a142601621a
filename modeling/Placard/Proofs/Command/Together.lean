import Placard.Command.Run
import Placard.Proofs.Command.Connections
import Placard.Proofs.Machine.Alike
import Placard.Proofs.Settings.Secrets

/-! One command on two machines: what both see alike, they do alike, and they put out the same. -/

namespace Placard

open Variable (SameOpen isSecret)

/-! ### Command lines -/

/-- The variables that stand in for arguments hold no secrets. -/
theorem Argument.standIn?_plain {argument : Argument} {name : String}
    (named : argument.standIn? = some name) : isSecret name = false := by
  cases argument <;> cases named <;> decide

namespace Command

variable {environment environment' : List (String × String)}

/-- The same values stand in for arguments. -/
theorem Progress.standIns_congr (same : SameOpen environment environment')
    (given : List (Argument × String)) : standIns environment' given = standIns environment given := by
  -- Argument by argument: either no variable stands in, or one that holds no secret.
  refine List.filterMap_congr fun argument _ => ?_
  cases named : argument.standIn? with
  | none => rfl
  | some name => simp only [Option.bind_eq_bind, Option.bind_some, same.lookup (Argument.standIn?_plain named)]

/-- The same words are read alike. -/
theorem readFrom_congr (same : SameOpen environment environment') (words : List String) (level : Level)
    (progress : Progress) :
    readFrom environment' level progress words = readFrom environment level progress words := by
  -- Variables are looked at only where a level ends.
  induction words generalizing level progress with
  | nil => simp only [readFrom, Progress.finish, Progress.standIns_congr same]
  | cons word rest ih => simp only [readFrom, Progress.finish, Progress.standIns_congr same, ih]

end Command

/-- A command line is understood alike. -/
theorem Invocation.read_congr {environment environment' : List (String × String)}
    (same : SameOpen environment environment') (words : List String) :
    read environment' words = read environment words := by
  simp only [read, Command.readWords, Command.readFrom_congr same, merged,
    Command.Progress.standIns_congr same]

/-- A machine after the program has told how a command line ended. -/
def Ending.closed (ending : Ending) (world : World) : World :=
  { world with said := world.said ++ ending.answer, told := world.told ++ ending.complaint }

/-- A command that has done its work leaves nothing to tell. -/
@[simp] theorem Ending.closed_done (world : World) : Ending.done.closed world = world := by
  simp only [closed, answer, complaint, String.append_empty]

/-- How a command line ends: it is refused, or its command ends in one way or the other. -/
def Invocation.ending : Except Failure Unit → Ending
  | .error failure => .failed failure
  | .ok _ => .done

/-- The program reads a command line and runs its command. -/
theorem runWords_run (connect : Connect (StateM World)) (words : List String) (world : World) :
    (runWords connect words).run world =
      match Invocation.read world.environment words with
      | .error usage => (.refused usage, world)
      | .ok invocation =>
        (Invocation.ending (outcome (invocation.run connect) world).1,
          (outcome (invocation.run connect) world).2) := by
  have environment : (Machine.environment : StateM World _).run world = (world.environment, world) := rfl
  rw [runWords, StateT.run_bind, environment, id_bind_eq]
  cases Invocation.read world.environment words with
  | error usage => rfl
  | ok invocation =>
    -- Running a command is its outcome, by definition.
    have ran : StateT.run (invocation.run connect).run world = outcome (invocation.run connect) world := rfl
    simp only [StateT.run_bind, ran]
    rcases outcome (invocation.run connect) world with ⟨result, after⟩
    cases result with
    | error failure => rfl
    | ok value => rfl

/-- The program tells in the end how a command line ended, and gives the exit code. -/
theorem runProgram_run (connect : Connect (StateM World)) (words : List String) (world : World) :
    (runProgram connect words).run world =
      let (ending, after) := (runWords connect words).run world
      (ending.exitCode, ending.closed after) := by
  rw [runProgram, StateT.run_bind]
  rcases (runWords connect words).run world with ⟨ending, after⟩
  rw [id_bind_eq]
  -- What is empty is not put out, which comes to the same.
  by_cases quiet : ending.answer = "" <;> by_cases calm : ending.complaint = ""
  · simp [quiet, calm, Ending.closed]
  · simp only [quiet, calm, Ending.closed, bne_iff_ne, ne_eq, not_true_eq_false, not_false_eq_true, if_true,
      if_false, String.append_empty]
    rfl
  · simp only [quiet, calm, Ending.closed, bne_iff_ne, ne_eq, not_true_eq_false, not_false_eq_true, if_true,
      if_false, String.append_empty]
    rfl
  · simp only [quiet, calm, Ending.closed, bne_iff_ne, ne_eq, not_false_eq_true, if_true]
    rfl

/-! ### Actions on two machines -/

/-- Two machines have come the same way from two others: their disks are alike, their variables differ
in secrets only, and the same was put out on both. -/
structure Together (alike : Disk → Disk → Prop) (start start' world world' : World) : Prop where
  disk : alike world.disk world'.disk
  environment : SameOpen world.environment world'.environment
  said : ∃ text, world.said = start.said ++ text ∧ world'.said = start'.said ++ text
  told : ∃ text, world.told = start.told ++ text ∧ world'.told = start'.told ++ text

variable {alike : Disk → Disk → Prop} {start start' world world' : World}

namespace Together

/-- Two machines start together when their disks are alike and their variables differ in secrets only. -/
theorem refl (disk : alike world.disk world'.disk) (environment : SameOpen world.environment world'.environment) :
    Together alike world world' world world' :=
  ⟨disk, environment, ⟨"", by simp⟩, ⟨"", by simp⟩⟩

/-- A text that is put on both outputs keeps machines together. -/
theorem say (together : Together alike start start' world world') (text : String) :
    Together alike start start' { world with said := world.said ++ text }
      { world' with said := world'.said ++ text } := by
  obtain ⟨before, here, there⟩ := together.said
  exact { together with said := ⟨before ++ text, by simp [here, String.append_assoc],
    by simp [there, String.append_assoc]⟩ }

/-- A text that is put beside both outputs keeps machines together. -/
theorem tell (together : Together alike start start' world world') (text : String) :
    Together alike start start' { world with told := world.told ++ text }
      { world' with told := world'.told ++ text } := by
  obtain ⟨before, here, there⟩ := together.told
  exact { together with told := ⟨before ++ text, by simp [here, String.append_assoc],
    by simp [there, String.append_assoc]⟩ }

/-- The same ending keeps machines together. -/
theorem closed (together : Together alike start start' world world') (ending : Ending) :
    Together alike start start' (ending.closed world) (ending.closed world') :=
  (together.say ending.answer).tell ending.complaint

end Together

variable {α β : Type} {related : α → β → Prop}

/-- Two actions look at two machines and find what belongs together, or fail alike. -/
def LookAlike (related : α → β → Prop) (action : ExceptT Failure (StateM World) α)
    (action' : ExceptT Failure (StateM World) β) (world world' : World) : Prop :=
  ∃ result result', EndAlike related result result' ∧ outcome action world = (result, world) ∧
    outcome action' world' = (result', world')

/-- Two actions end in the same way on two machines, and leave them together. -/
def GoAlike (alike : Disk → Disk → Prop) (start start' : World)
    (action action' : ExceptT Failure (StateM World) Unit) (world world' : World) : Prop :=
  ∃ result after after', outcome action world = (result, after) ∧
    outcome action' world' = (result, after') ∧ Together alike start start' after after'

/-- After looks that find what belongs together, actions go on alike. -/
theorem LookAlike.bind {action : ExceptT Failure (StateM World) α}
    {action' : ExceptT Failure (StateM World) β} {next : α → ExceptT Failure (StateM World) Unit}
    {next' : β → ExceptT Failure (StateM World) Unit}
    (looks : LookAlike related action action' world world')
    (together : Together alike start start' world world')
    (goes : ∀ value value', related value value' →
      GoAlike alike start start' (next value) (next' value') world world') :
    GoAlike alike start start' (action >>= next) (action' >>= next') world world' := by
  -- Looking leaves both machines as they were, so what comes next starts from the same two.
  obtain ⟨_, _, ends, here, there⟩ := looks
  unfold GoAlike
  rw [outcome_bind, outcome_bind, here, there]
  cases ends with
  | error failure => exact ⟨_, _, _, rfl, rfl, together⟩
  | ok same => exact goes _ _ same

/-- After actions that go alike, others go on alike. -/
theorem GoAlike.bind {action action' : ExceptT Failure (StateM World) Unit}
    {next next' : Unit → ExceptT Failure (StateM World) Unit}
    (goes : GoAlike alike start start' action action' world world')
    (more : ∀ after after', Together alike start start' after after' →
      GoAlike alike start start' (next ()) (next' ()) after after') :
    GoAlike alike start start' (action >>= next) (action' >>= next') world world' := by
  obtain ⟨result, after, after', here, there, together⟩ := goes
  unfold GoAlike
  rw [outcome_bind, outcome_bind, here, there]
  cases result with
  | error failure => exact ⟨_, _, _, rfl, rfl, together⟩
  | ok value => exact more after after' together

/-- The same failure ends both actions. -/
theorem GoAlike.throw (together : Together alike start start' world world') (failure : Failure) :
    GoAlike alike start start' (throw failure) (throw failure) world world' :=
  ⟨_, _, _, rfl, rfl, together⟩

/-- The same text is put beside both outputs. -/
theorem GoAlike.tell (together : Together alike start start' world world') (text : String) :
    GoAlike alike start start' (Machine.tell text) (Machine.tell text) world world' :=
  ⟨_, _, _, rfl, rfl, together.tell text⟩

/-- The same result is put out alike. -/
theorem GoAlike.putView (together : Together alike start start' world world')
    (presentation : Presentation) (view : View) :
    GoAlike alike start start' (presentation.putView view) (presentation.putView view) world world' := by
  refine ⟨_, _, _, Presentation.outcome_putView .., Presentation.outcome_putView .., ?_⟩
  unfold Presentation.shown
  split
  · exact together
  · exact together.say _

/-- The same remark is made alike. -/
theorem GoAlike.remark (together : Together alike start start' world world')
    (presentation : Presentation) (text : String) :
    GoAlike alike start start' (presentation.remark text) (presentation.remark text) world world' := by
  refine ⟨_, _, _, Presentation.outcome_remark .., Presentation.outcome_remark .., ?_⟩
  unfold Presentation.noted
  split
  · exact together
  · exact together.tell _

/-- Two runs of the program give the same exit code, and what one puts out the other puts out too, on
the output and beside it. -/
structure AnswerAlike (world world' : World) (run run' : Nat × World) : Prop where
  code : run'.1 = run.1
  said : ∃ text, run.2.said = world.said ++ text ∧ run'.2.said = world'.said ++ text
  told : ∃ text, run.2.told = world.told ++ text ∧ run'.2.told = world'.told ++ text

/-- Where the command of a command line goes alike on two machines, the whole program does. -/
theorem Together.program (connect : Connect (StateM World)) {words : List String}
    (together : Together alike world world' world world')
    (goes : ∀ invocation, Invocation.read world.environment words = .ok invocation →
      GoAlike alike world world' (invocation.run connect) (invocation.run connect) world world') :
    AnswerAlike world world' ((runProgram connect words).run world) ((runProgram connect words).run world') ∧
      Together alike world world' ((runProgram connect words).run world).2
        ((runProgram connect words).run world').2 := by
  have ran : ((runProgram connect words).run world').1 = ((runProgram connect words).run world).1 ∧
      Together alike world world' ((runProgram connect words).run world).2
        ((runProgram connect words).run world').2 := by
    -- A line that is refused on one machine is refused on the other, with the same complaint.
    have same := Invocation.read_congr together.environment words
    rw [runProgram_run, runProgram_run, runWords_run, runWords_run, same]
    cases read : Invocation.read world.environment words with
    | error usage => exact ⟨rfl, together.closed _⟩
    | ok invocation =>
      obtain ⟨result, after, after', here, there, left⟩ := goes invocation read
      simp only [here, there]
      exact ⟨trivial, left.closed _⟩
  exact ⟨⟨ran.1, ran.2.said, ran.2.told⟩, ran.2⟩

/-! ### Loading -/

variable {seen : Place → Prop}

/-- A settings file is looked for and found alike. -/
theorem Disk.Alike.settingsFile? {disk other : Disk} (alike : disk.Alike seen other) (path : String) :
    other.settingsFile? path = disk.settingsFile? path := by
  rw [Disk.settingsFile?, Disk.settingsFile?, Disk.firstFile?, Disk.firstFile?, alike.working]
  simp only [alike.node?_kind]

/-- The settings file that is found for a path is seen. -/
def SettingsSeen (seen : Place → Prop) (disk : Disk) (path : String) : Prop :=
  ∀ found place, disk.settingsFile? path = some found → disk.locate found = .ok place → seen place

/-- From a settings file that is seen, and from variables that differ in secrets only, the same settings
are loaded. -/
theorem Settings.loaded_alike (alike : world.disk.Alike seen world'.disk)
    (same : SameOpen world.environment world'.environment) {path : String}
    (covered : SettingsSeen seen world.disk path) : loaded world' path = loaded world path := by
  -- The layer of the file is the same, and the layer of the variables gives the same settings over it.
  have file : givenFile world'.disk path = givenFile world.disk path := by
    rw [givenFile, givenFile, alike.settingsFile?, alike.working]
    cases found : world.disk.settingsFile? path with
    | none => rfl
    | some name => simp only [alike.read fun place => covered name place found]
  rw [loaded, loaded, file]
  simp only [same.ofLayers]

/-- From a file of connections that is seen, the same connections are loaded. -/
theorem Registry.loaded_alike {disk other : Disk} (alike : disk.Alike seen other) {path : String}
    (leads : ∀ place, disk.locate path = .ok place → seen place) : loaded other path = loaded disk path := by
  rw [loaded, loaded, alike.read leads]

/-- Two commands work on the same, but for variables that hold secrets. -/
structure Context.Alike (context context' : Context) : Prop where
  environment : SameOpen context.environment context'.environment
  settingsPath : context'.settingsPath = context.settingsPath
  settings : context'.settings = context.settings
  connectionsPath : context'.connectionsPath = context.connectionsPath

namespace Context.Alike

variable {context context' : Context}

/-- What trouble with a file fails with is the same. -/
theorem storeFailure (same : context.Alike context') : context'.storeFailure = context.storeFailure := by
  funext error
  rw [Context.storeFailure, Context.storeFailure, same.environment.usualSettingsPath]

/-- What a command works on is loaded alike. -/
theorem load (alike : world.disk.Alike seen world'.disk)
    (same : SameOpen world.environment world'.environment) {sources : Sources}
    (covered : SettingsSeen seen world.disk (sources.settingsPath world.environment)) :
    LookAlike (fun context context' => context.Alike context' ∧
        ∃ settings, Settings.loaded world (sources.settingsPath world.environment) = .ok settings ∧
          context = sources.context world.environment settings)
      (Context.load sources) (Context.load sources) world world' := by
  refine ⟨_, _, ?_, Context.outcome_load .., Context.outcome_load ..⟩
  -- The outcome of loading is made of the settings and of two paths, and all of them are the same.
  rw [same.settingsPath, same.usualSettingsPath, Settings.loaded_alike alike same covered]
  cases Settings.loaded world (sources.settingsPath world.environment) with
  | error error => exact .error _
  | ok settings =>
    refine .ok ⟨⟨same, same.settingsPath sources, rfl, ?_⟩, settings, rfl, rfl⟩
    simp only [Sources.context, same.settingsPath]

end Context.Alike

end Placard
