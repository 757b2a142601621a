import Placard.Proofs.Machine.Accord
import Placard.Proofs.Settings.Accord
import Placard.Shell.Run

/-! Command lines of the shell run alike on machines in accord. -/

namespace Placard.Accord

variable {m m' : Type → Type} [Monad m] [Monad m'] [LawfulMonad m] [LawfulMonad m'] [Machine m]
  [Machine m'] {shown shown' : Presentation} (accord : Accord m m' shown shown') {α : Type}

/-- Actions of a run of the shell. -/
abbrev act : Accord (Shell.Act m) (Shell.Act m') shown shown' :=
  (accord.both Shell.Session).except Shell.Stop

/-! ### What a run is made of -/

/-- An action of the machine within a run. -/
theorem onMachine {action : m α} {action' : m' α} (agrees : accord.agree Eq action action') :
    accord.act.agree Eq (Shell.onMachine action) (Shell.onMachine action') :=
  (accord.both _).lift (accord.liftBoth agrees)

/-- A run looks at where it stands. -/
theorem get : accord.act.agree Eq get get :=
  (accord.both _).lift (accord.modifyGet fun session => (session, session))

/-- A run goes on from elsewhere. -/
theorem modify (change : Shell.Session → Shell.Session) :
    accord.act.agree Eq (modify change) (modify change) :=
  (accord.both _).lift (accord.modifyGet fun session => ((), change session))

/-- Bytes are written to a stream alike. -/
theorem emitTo (stream : Nat) (bytes : List UInt8) :
    accord.act.agree Eq (Shell.emit stream bytes) (Shell.emit stream bytes) :=
  accord.modify _

/-- A status is set alike. -/
theorem setStatus (status : Nat) :
    accord.act.agree Eq (Shell.setStatus status) (Shell.setStatus status) :=
  accord.modify _

/-- What an action writes is caught alike. -/
theorem capture (input : List UInt8) {action : Shell.Act m Unit} {action' : Shell.Act m' Unit}
    (agrees : accord.act.agree Eq action action') :
    accord.act.agree Eq (Shell.capture input action) (Shell.capture input action') := by
  refine accord.act.next accord.get fun before => ?_
  refine accord.act.next (accord.modify fun _ => _) fun _ => ?_
  refine accord.act.next agrees fun _ => ?_
  refine accord.act.next accord.get fun after => ?_
  exact accord.act.next (accord.modify fun _ => _) fun _ => accord.act.give _

/-- An action is run apart alike. -/
theorem apart {action : Shell.Act m Unit} {action' : Shell.Act m' Unit}
    (agrees : accord.act.agree Eq action action') :
    accord.act.agree Eq (Shell.apart action) (Shell.apart action') := by
  refine accord.act.next accord.get fun before => ?_
  refine accord.act.next ((accord.both _).attempt agrees fun stop => ?_) fun _ => accord.modify _
  -- Leaving ends the part that is run apart; being late ends everything.
  cases stop with
  | leave => exact accord.act.give _
  | late => exact (accord.both _).fail _

/-- The same time is spent, or is too much for both. -/
theorem spend (span : Duration) : accord.act.agree Eq (Shell.spend span) (Shell.spend span) := by
  refine accord.act.next accord.get fun session => ?_
  dsimp only
  split
  · exact accord.act.next (accord.onMachine (accord.pause _)) fun _ => (accord.both _).failFirst _
  · exact accord.act.next (accord.onMachine (accord.pause _)) fun _ => accord.modify _

/-- The same bytes are gathered. -/
theorem gather (program : String) (names : List String) :
    accord.act.agree Eq (Shell.gather program names) (Shell.gather program names) := by
  refine accord.act.next (accord.setStatus 0) fun _ => accord.act.foldlM (fun gathered name => ?_) _ _
  split
  · refine accord.act.next accord.get fun session => ?_
    exact accord.act.next (accord.modify _) fun _ => accord.act.give _
  · refine accord.act.next (accord.onMachine (accord.read name)) fun found => ?_
    cases found with
    | ok content => exact accord.act.give _
    | error fault =>
      exact accord.act.next (accord.emitTo _ _) fun _ =>
        accord.act.next (accord.setStatus _) fun _ => accord.act.give _

/-- A condition holds on both machines, or on neither. -/
theorem holds (arguments : List String) :
    accord.act.agree Eq (Shell.holds arguments) (Shell.holds arguments) := by
  unfold Shell.holds
  split
  -- A condition compares texts, asks what is at a path, or denies another condition.
  all_goals first
    | exact accord.act.give _
    | exact accord.onMachine (accord.isFile _)
    | exact accord.onMachine (accord.isThere _)
    | exact accord.act.next (accord.onMachine (accord.kind? _)) fun _ => accord.act.give _
    | exact accord.act.next (accord.onMachine (accord.read _)) fun _ => accord.act.give _
    | exact accord.act.next (holds _) fun _ => accord.act.give _

/-- A program is run alike. -/
theorem runProgram (name : String) (arguments : List String) :
    accord.act.agree Eq (Shell.runProgram name arguments) (Shell.runProgram name arguments) := by
  have ends (status : Nat) := accord.setStatus status
  have writes (stream : Nat) (bytes : List UInt8) (status : Nat) : accord.act.agree Eq
      (Shell.emit stream bytes >>= fun _ => Shell.setStatus status)
      (Shell.emit stream bytes >>= fun _ => Shell.setStatus status) :=
    accord.act.next (accord.emitTo stream bytes) fun _ => accord.setStatus status
  have gathers (program : String) (names : List String) (change : List UInt8 → List UInt8) : accord.act.agree Eq
      (Shell.gather program names >>= fun content => Shell.emit 1 (change content))
      (Shell.gather program names >>= fun content => Shell.emit 1 (change content)) :=
    accord.act.next (accord.gather program names) fun _ => accord.emitTo _ _
  -- One case for each program that the shell knows, in the order in which it looks for them.
  unfold Shell.runProgram
  split
  iterate 3 exact ends _
  · exact writes _ _ _
  · split
    · exact writes _ _ _
    · exact ends _
  · split
    · exact accord.act.next (ends _) fun _ => (accord.both _).fail _
    · exact (accord.both _).fail _
  · exact (accord.both _).fail _
  · exact gathers _ _ id
  iterate 2 exact gathers _ _ _
  · exact accord.act.next (accord.gather _ _) fun _ => accord.emitTo _ _
  · refine accord.act.next accord.get fun session => ?_
    split
    · exact accord.act.next (accord.modify _) fun _ => writes _ _ _
    · exact ends _
  · split
    · exact accord.act.next (accord.spend _) fun _ => ends _
    · exact ends _
  · refine accord.act.next (ends _) fun _ => ?_
    split
    · exact accord.emitTo _ _
    · exact accord.emitTo _ _
    · exact ends _
  iterate 2 exact accord.act.next (accord.holds _) fun _ => ends _
  · exact writes _ _ _

/-- What was written goes where the same streams lead. -/
theorem deliver (targets : List (Nat × Shell.Target)) (chunks : List Shell.Chunk) :
    accord.act.agree Eq (Shell.deliver targets chunks) (Shell.deliver targets chunks) := by
  refine accord.act.forM (fun chunk => ?_) chunks
  obtain ⟨stream, bytes⟩ := chunk
  dsimp only
  split
  · exact accord.emitTo _ _
  · exact accord.act.give _
  · refine accord.act.next (accord.onMachine (accord.read _)) fun held => ?_
    exact accord.act.next (accord.onMachine (accord.write _ _)) fun _ => accord.act.give _

/-! ### Runs with bounded steps -/

/-- What runs that may take a number of steps do alike. -/
structure Runs (fuel : Nat) : Prop where
  valueOf : ∀ part, accord.act.agree Eq (Shell.valueOf fuel part) (Shell.valueOf fuel part)
  joined : ∀ word, accord.act.agree Eq (Shell.joined fuel word) (Shell.joined fuel word)
  fieldsOf : ∀ word, accord.act.agree Eq (Shell.fieldsOf fuel word) (Shell.fieldsOf fuel word)
  openTargets : ∀ redirects targets,
    accord.act.agree Eq (Shell.openTargets fuel redirects targets) (Shell.openTargets fuel redirects targets)
  redirected : ∀ redirects {action : Shell.Act m Unit} {action' : Shell.Act m' Unit},
    accord.act.agree Eq action action' →
    accord.act.agree Eq (Shell.redirected fuel redirects action) (Shell.redirected fuel redirects action')
  runStages : ∀ stages, accord.act.agree Eq (Shell.runStages fuel stages) (Shell.runStages fuel stages)
  runLoop : ∀ wanted condition body last, accord.act.agree Eq
    (Shell.runLoop fuel wanted condition body last) (Shell.runLoop fuel wanted condition body last)
  run : ∀ command, accord.act.agree Eq (Shell.run fuel command) (Shell.run fuel command)

/-- A run that may take no step is late on both machines. -/
theorem Runs.zero : accord.Runs 0 := by
  have late {β : Type} : accord.act.agree Eq (throw .late : Shell.Act m β) (throw .late) := (accord.both _).fail _
  exact ⟨fun _ => late, fun _ => late, fun _ => late, fun _ _ => late, fun _ _ _ _ => late, fun _ => late,
    fun _ _ _ _ => late, fun _ => late⟩

section

variable {accord} {fuel : Nat} (runs : accord.Runs fuel)

include runs

/-- The text of a part is the same. -/
theorem Runs.succ_valueOf (part : Shell.Part) :
    accord.act.agree Eq (Shell.valueOf (fuel + 1) part) (Shell.valueOf (fuel + 1) part) := by
  rcases part with value | ⟨name, fallback, quoted⟩ | ⟨command, quoted⟩ | text
  · exact accord.act.give _
  · -- A variable without a value gives way to its fallback.
    refine accord.act.next accord.get fun session => ?_
    cases fallback with
    | none => exact accord.act.give _
    | some parts =>
      have either (value : String) : accord.act.agree Eq
          (if value == "" then Shell.joined fuel parts else Pure.pure value)
          (if value == "" then Shell.joined fuel parts else Pure.pure value) := by
        split
        · exact runs.joined parts
        · exact accord.act.give value
      exact either _
  · -- A command stands for what it writes to its output.
    refine accord.act.next accord.get fun session => ?_
    refine accord.act.next (accord.capture _ (accord.apart (runs.run command))) fun chunks => ?_
    exact accord.act.next (accord.emitTo _ _) fun _ => accord.act.give _
  · refine accord.act.next accord.get fun session => ?_
    dsimp only
    split
    · exact accord.act.give _
    · exact accord.act.next (accord.setStatus _) fun _ => (accord.both _).fail _

/-- The fields of a word are the same. -/
theorem Runs.succ_fieldsOf (word : Shell.Word) :
    accord.act.agree Eq (Shell.fieldsOf (fuel + 1) word) (Shell.fieldsOf (fuel + 1) word) := by
  refine accord.act.next (accord.act.foldlM (fun fields part => ?_) word _) fun _ => accord.act.give _
  refine accord.act.next (runs.valueOf part) fun value => ?_
  split <;> exact accord.act.give _

/-- The same targets are opened, or none. -/
theorem Runs.succ_openTargets (redirects : List Shell.Redirect) (targets : List (Nat × Shell.Target)) :
    accord.act.agree Eq (Shell.openTargets (fuel + 1) redirects targets)
      (Shell.openTargets (fuel + 1) redirects targets) := by
  cases redirects with
  | nil => exact accord.act.give _
  | cons first others =>
    obtain ⟨stream, direction, word⟩ := first
    refine accord.act.next (runs.joined word) fun name => ?_
    have refuse (text : List UInt8) (targets? : Option (List (Nat × Shell.Target))) : accord.act.agree Eq
        (Shell.emit 2 text >>= fun _ => Shell.setStatus 2 >>= fun _ => Pure.pure targets?)
        (Shell.emit 2 text >>= fun _ => Shell.setStatus 2 >>= fun _ => Pure.pure targets?) :=
      accord.act.next (accord.emitTo _ _) fun _ => accord.act.next (accord.setStatus _) fun _ => accord.act.give _
    dsimp only
    split
    · -- A stream is led where another one leads.
      split
      · exact runs.openTargets _ _
      · exact refuse _ _
    · -- A file is read from.
      split
      · exact accord.act.next (accord.modify _) fun _ => runs.openTargets _ _
      · refine accord.act.next (accord.onMachine (accord.read _)) fun found => ?_
        cases found with
        | ok content => exact accord.act.next (accord.modify _) fun _ => runs.openTargets _ _
        | error fault => exact refuse _ _
    · -- A file is written to, behind what it held or anew.
      split
      · exact runs.openTargets _ _
      · split
        · refine accord.act.next (accord.onMachine (accord.read _)) fun found => ?_
          refine accord.act.next (accord.act.give _) fun held => ?_
          refine accord.act.next (accord.onMachine (accord.write _ _)) fun written => ?_
          cases written with
          | ok _ => exact runs.openTargets _ _
          | error fault => exact refuse _ _
        · refine accord.act.next (accord.act.give _) fun held => ?_
          refine accord.act.next (accord.onMachine (accord.write _ _)) fun written => ?_
          cases written with
          | ok _ => exact runs.openTargets _ _
          | error fault => exact refuse _ _

/-- Streams are redirected alike. -/
theorem Runs.succ_redirected (redirects : List Shell.Redirect) {action : Shell.Act m Unit}
    {action' : Shell.Act m' Unit} (agrees : accord.act.agree Eq action action') :
    accord.act.agree Eq (Shell.redirected (fuel + 1) redirects action)
      (Shell.redirected (fuel + 1) redirects action') := by
  refine accord.act.next accord.get fun session => ?_
  refine accord.act.next (runs.openTargets redirects []) fun opened => ?_
  cases opened with
  | none => exact accord.act.give _
  | some targets =>
    refine accord.act.next accord.get fun before => ?_
    refine accord.act.next (accord.modify _) fun _ => ?_
    refine accord.act.next ((accord.both _).attempt agrees fun stop =>
      accord.act.next ?_ fun _ => (accord.both _).fail stop) fun _ => ?_
    -- However the action ends, what it wrote goes where the streams lead.
    all_goals
      refine accord.act.next accord.get fun after => ?_
      refine accord.act.next (accord.modify _) fun _ => accord.act.next (accord.deliver _ _) fun _ => ?_
      split
      · exact accord.modify _
      · exact accord.act.give _

/-- The stages of a pipeline run alike. -/
theorem Runs.succ_runStages (stages : List Shell.Command) :
    accord.act.agree Eq (Shell.runStages (fuel + 1) stages) (Shell.runStages (fuel + 1) stages) := by
  cases stages with
  | nil => exact accord.act.give _
  | cons first others =>
    cases others with
    | nil => exact runs.run first
    | cons second others =>
      refine accord.act.next accord.get fun session => ?_
      refine accord.act.next (accord.capture _ (accord.apart (runs.run first))) fun chunks => ?_
      refine accord.act.next (accord.emitTo _ _) fun _ => ?_
      refine accord.act.next (accord.capture _ (accord.apart (runs.runStages _))) fun written => ?_
      exact accord.modify _

/-- A loop runs alike. -/
theorem Runs.succ_runLoop (wanted : Bool) (condition body : Shell.Command) (last : Nat) :
    accord.act.agree Eq (Shell.runLoop (fuel + 1) wanted condition body last)
      (Shell.runLoop (fuel + 1) wanted condition body last) := by
  refine accord.act.next (runs.run condition) fun _ => ?_
  refine accord.act.next accord.get fun session => ?_
  split
  · refine accord.act.next (runs.run body) fun _ => ?_
    exact accord.act.next accord.get fun session => runs.runLoop _ _ _ _
  · exact accord.setStatus _

/-- A command runs alike. -/
theorem Runs.succ_run (command : Shell.Command) :
    accord.act.agree Eq (Shell.run (fuel + 1) command) (Shell.run (fuel + 1) command) := by
  cases command with
  | simple assigned words redirects =>
    refine accord.act.next (accord.act.mapM runs.fieldsOf words) fun fields => ?_
    have assigns (pair : String × Shell.Word) : accord.act.agree Eq
        (Shell.joined fuel pair.2 >>= fun value => Pure.pure (pair.1, value))
        (Shell.joined fuel pair.2 >>= fun value => Pure.pure (pair.1, value)) :=
      accord.act.next (runs.joined _) fun _ => accord.act.give _
    refine accord.act.next (accord.act.mapM assigns assigned) fun values => ?_
    -- Without a word, variables are set. A program may take the place of the shell, or be a shell itself.
    split
    · exact runs.redirected _ (accord.act.next (accord.modify _) fun _ => accord.setStatus _)
    · exact accord.act.next (runs.redirected _ (accord.runProgram _ _)) fun _ => (accord.both _).fail _
    · exact runs.redirected _ (accord.apart (runs.run _))
    · exact runs.redirected _ (accord.runProgram _ _)
  | pipeline negated stages =>
    refine accord.act.next (runs.runStages stages) fun _ => ?_
    cases negated with
    | false => exact accord.act.give _
    | true => exact accord.act.next accord.get fun _ => accord.setStatus _
  | both left right =>
    refine accord.act.next (runs.run left) fun _ => accord.act.next accord.get fun session => ?_
    split
    · exact runs.run right
    · exact accord.act.give _
  | either left right =>
    refine accord.act.next (runs.run left) fun _ => accord.act.next accord.get fun session => ?_
    split
    · exact runs.run right
    · exact accord.act.give _
  | sequence commands => exact accord.act.forM runs.run commands
  | group isApart body redirects =>
    refine runs.redirected redirects ?_
    cases isApart with
    | false => exact runs.run body
    | true => exact accord.apart (runs.run body)
  | branch condition body otherwise =>
    refine accord.act.next (runs.run condition) fun _ => accord.act.next accord.get fun session => ?_
    split
    · exact runs.run body
    · cases otherwise with
      | none => exact accord.setStatus _
      | some command => exact runs.run command
  | loop until_ condition body => exact runs.runLoop _ _ _ _
  | each name words body =>
    refine accord.act.next (accord.act.mapM runs.fieldsOf words) fun fields => ?_
    refine accord.act.next (accord.setStatus 0) fun _ => accord.act.forM (fun value => ?_) _
    exact accord.act.next (accord.modify _) fun _ => runs.run body

end

/-- Runs with any number of steps go alike. -/
theorem runs (fuel : Nat) : accord.Runs fuel := by
  induction fuel with
  | zero => exact .zero accord
  | succ fuel ih =>
    exact {
      valueOf := ih.succ_valueOf
      joined := fun word => accord.act.next (accord.act.mapM ih.valueOf word) fun _ => accord.act.give _
      fieldsOf := ih.succ_fieldsOf
      openTargets := ih.succ_openTargets
      redirected := fun redirects _ _ agrees => ih.succ_redirected redirects agrees
      runStages := ih.succ_runStages
      runLoop := ih.succ_runLoop
      run := ih.succ_run }

/-- A command line writes the same output, or is late on both machines. -/
theorem outputOf (text : String) (budget : Duration) :
    accord.agree Eq (Shell.outputOf text budget) (Shell.outputOf text budget) := by
  unfold Shell.outputOf
  cases Shell.parse text with
  | none => exact accord.give _
  | some command =>
    refine accord.next accord.environment fun environment => ?_
    refine accord.bind ((accord.runs Shell.depthLimit).run command ⟨environment, 0, budget, [], []⟩) ?_
    -- Both runs end in the same session, whether or not they were stopped.
    rintro ⟨result, session⟩ ⟨result', _⟩ ⟨ends, rfl⟩
    cases ends with
    | ok _ => exact accord.give _
    | error stop => cases stop <;> exact accord.give _

end Placard.Accord
