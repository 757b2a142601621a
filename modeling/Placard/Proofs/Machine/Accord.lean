import Placard.Command.View
import Placard.Proofs.Except
import Placard.Proofs.Machine.Run
import Placard.Source.Transport

/-! Two machines in accord: an action on one does what another does on the other, but for what is shown. -/

namespace Placard

/-- An action on what is shown and on nothing else, which leaves the output alone where all is quiet. -/
inductive Shows {m : Type → Type} [Monad m] [Machine m] (presentation : Presentation) : m Unit → Prop
  | nothing : Shows presentation (pure ())
  | tell (text : String) : Shows presentation (Machine.tell text)
  | say (loud : presentation.quiet = false) (text : String) : Shows presentation (Machine.say text)

namespace Shows

variable {m : Type → Type} [Monad m] [Machine m] (presentation : Presentation)

/-- Putting out a text shows it, unless all is to be quiet. -/
theorem put (text : String) : Shows presentation (presentation.put text : m Unit) := by
  unfold Presentation.put
  split
  · exact .nothing
  · rename_i loud
    rw [Bool.or_eq_true, not_or, Bool.not_eq_true] at loud
    exact .say loud.1 _

/-- A remark shows a text, unless all is to be quiet. -/
theorem remark (text : String) : Shows presentation (presentation.remark text : m Unit) := by
  unfold Presentation.remark
  split
  · exact .nothing
  · exact .tell _

end Shows

/-- A relation of actions on two machines that every action of a program but showing keeps.

Actions in accord give related values. Whatever is shown on one machine is in accord with whatever is
shown on the other, so that the two may be told different things. -/
structure Accord (m m' : Type → Type) [Monad m] [Monad m'] [Machine m] [Machine m']
    (shown shown' : Presentation) where
  agree : {α β : Type} → (α → β → Prop) → m α → m' β → Prop
  pure {α β : Type} {related : α → β → Prop} {value : α} {value' : β} (same : related value value') :
    agree related (pure value) (pure value')
  bind {α β γ δ : Type} {related : α → β → Prop} {after : γ → δ → Prop} {first : m α} {first' : m' β}
    {next : α → m γ} {next' : β → m' δ} (begins : agree related first first')
    (goes : ∀ value value', related value value' → agree after (next value) (next' value')) :
    agree after (first >>= next) (first' >>= next')
  working : agree Eq Machine.working Machine.working
  kind? (path : String) : agree Eq (Machine.kind? path) (Machine.kind? path)
  read (path : String) : agree Eq (Machine.read path) (Machine.read path)
  write (path : String) (content : List UInt8) : agree Eq (Machine.write path content) (Machine.write path content)
  makeDirectories (path : String) : agree Eq (Machine.makeDirectories path) (Machine.makeDirectories path)
  environment : agree Eq Machine.environment Machine.environment
  now : agree Eq Machine.now Machine.now
  pause (span : Duration) : agree Eq (Machine.pause span) (Machine.pause span)
  shows {action : m Unit} {action' : m' Unit} (here : Shows shown action) (there : Shows shown' action') :
    agree Eq action action'

namespace Accord

variable {m m' : Type → Type} [Monad m] [Monad m'] [Machine m] [Machine m'] {shown shown' : Presentation}
  (accord : Accord m m' shown shown') {α β γ δ : Type}

/-- Two actions in accord that give the same value are gone on from alike. -/
theorem next {after : γ → δ → Prop} {first : m α} {first' : m' α} {next : α → m γ} {next' : α → m' δ}
    (begins : accord.agree Eq first first')
    (goes : ∀ value, accord.agree after (next value) (next' value)) :
    accord.agree after (first >>= next) (first' >>= next') :=
  accord.bind begins fun value _ same => same ▸ goes value

/-- A value that is merely given is the same on both machines. -/
theorem give (value : α) : accord.agree Eq (Pure.pure value) (Pure.pure value) :=
  accord.pure rfl

/-- A text that is put out is in accord with any other. -/
theorem put (text text' : String) : accord.agree Eq (shown.put text) (shown'.put text') :=
  accord.shows (.put shown text) (.put shown' text')

/-- A remark is in accord with any other. -/
theorem remark (text text' : String) : accord.agree Eq (shown.remark text) (shown'.remark text') :=
  accord.shows (.remark shown text) (.remark shown' text')

/-- Actions in a row that give nothing are in accord when each of them is. -/
theorem forM {action : α → m PUnit} {action' : α → m' PUnit}
    (each : ∀ item, accord.agree Eq (action item) (action' item)) (items : List α) :
    accord.agree Eq (items.forM action) (items.forM action') := by
  -- What each action leaves behind is kept by the accord, so one hypothesis does for all of them.
  induction items with
  | nil => exact accord.give _
  | cons item others ih => exact accord.next (each item) fun _ => ih

/-- Actions that each go on from what the one before gave are in accord when each of them is. -/
theorem foldlM {action : β → α → m β} {action' : β → α → m' β}
    (each : ∀ held item, accord.agree Eq (action held item) (action' held item)) (items : List α) (start : β) :
    accord.agree Eq (items.foldlM action start) (items.foldlM action' start) := by
  induction items generalizing start with
  | nil => exact accord.give _
  | cons item others ih => exact accord.next (each start item) ih

section Lawful

variable [LawfulMonad m] [LawfulMonad m']

/-- An action for each element of a list is in accord when each of them is. -/
theorem mapM {action : α → m β} {action' : α → m' β}
    (each : ∀ item, accord.agree Eq (action item) (action' item)) (items : List α) :
    accord.agree Eq (items.mapM action) (items.mapM action') := by
  induction items with
  | nil => exact accord.give []
  | cons item others ih =>
    rw [List.mapM_cons, List.mapM_cons]
    exact accord.next (each item) fun value => accord.next ih fun values => accord.give _

/-- What two actions give may be looked at more coarsely. -/
theorem weaken {related coarse : α → β → Prop} {action : m α} {action' : m' β}
    (agrees : accord.agree related action action') (weaker : ∀ value value', related value value' →
      coarse value value') : accord.agree coarse action action' := by
  have bound := accord.bind agrees fun value value' same => accord.pure (weaker value value' same)
  rwa [bind_pure, bind_pure] at bound

/-- What two actions give may be changed. -/
theorem map {related : α → β → Prop} {coarse : γ → δ → Prop} {action : m α} {action' : m' β}
    {change : α → γ} {change' : β → δ} (agrees : accord.agree related action action')
    (kept : ∀ value value', related value value' → coarse (change value) (change' value')) :
    accord.agree coarse (change <$> action) (change' <$> action') := by
  rw [map_eq_pure_bind, map_eq_pure_bind]
  exact accord.bind agrees fun value value' same => accord.pure (kept value value' same)

end Lawful

end Accord

/-! ### Actions that may fail, and actions with a state beside them -/

namespace Shows

variable {m : Type → Type} [Monad m] [LawfulMonad m] [Machine m] {presentation : Presentation}

/-- What shows something with room for failure shows it without, and never fails. -/
theorem exceptT {ε : Type} {action : ExceptT ε m Unit} (shows : Shows presentation action) :
    ∃ inner : m Unit, Shows presentation inner ∧ action = ExceptT.lift inner := by
  cases shows with
  | nothing => exact ⟨pure (), .nothing, (monadLift_pure (m := m) (n := ExceptT ε m) ()).symm⟩
  | tell text => exact ⟨Machine.tell text, .tell text, rfl⟩
  | say loud text => exact ⟨Machine.say text, .say loud text, rfl⟩

/-- What shows something with a state beside it shows it without, and leaves the state. -/
theorem stateT {σ : Type} {action : StateT σ m Unit} (shows : Shows presentation action) :
    ∃ inner : m Unit, Shows presentation inner ∧ action = StateT.lift inner := by
  cases shows with
  | nothing => exact ⟨pure (), .nothing, (monadLift_pure (m := m) (n := StateT σ m) ()).symm⟩
  | tell text => exact ⟨Machine.tell text, .tell text, rfl⟩
  | say loud text => exact ⟨Machine.say text, .say loud text, rfl⟩

end Shows

namespace Accord

variable {m m' : Type → Type} [Monad m] [Monad m'] [LawfulMonad m] [LawfulMonad m'] [Machine m]
  [Machine m'] {shown shown' : Presentation} (accord : Accord m m' shown shown')

/-- Actions that may fail are in accord when they fail alike or give related values. -/
def except (ε : Type) : Accord (ExceptT ε m) (ExceptT ε m') shown shown' :=
  let lift {α : Type} {action : m α} {action' : m' α} (agrees : accord.agree Eq action action') :
      accord.agree (EndAlike Eq) (ExceptT.lift action).run (ExceptT.lift action').run :=
    accord.map agrees fun _ _ same => .ok same
  { agree := fun related action action' => accord.agree (EndAlike related) action.run action'.run
    pure := fun same => accord.pure (.ok same)
    bind := by
      intro _ _ _ _ related after first first' next next' begins goes
      refine accord.bind begins fun result result' ends => ?_
      -- A failure of one side is the same on the other, and stops both.
      cases ends with
      | error fault => exact accord.pure (.error fault)
      | ok same => exact goes _ _ same
    working := lift accord.working
    kind? := fun path => lift (accord.kind? path)
    read := fun path => lift (accord.read path)
    write := fun path content => lift (accord.write path content)
    makeDirectories := fun path => lift (accord.makeDirectories path)
    environment := lift accord.environment
    now := lift accord.now
    pause := fun span => lift (accord.pause span)
    shows := by
      intro action action' here there
      -- Showing never fails, so on both sides it is showing without room for failure.
      obtain ⟨inner, shows, rfl⟩ := here.exceptT
      obtain ⟨inner', shows', rfl⟩ := there.exceptT
      exact lift (accord.shows shows shows') }

section Failing

variable {ε α β γ δ : Type} {related : α → β → Prop}

/-- An action that does not fail is in accord among those that may. -/
theorem lift {action : m α} {action' : m' β} (agrees : accord.agree related action action') :
    (accord.except ε).agree related (ExceptT.lift action) (ExceptT.lift action') :=
  accord.map agrees fun _ _ same => .ok same

/-- Both machines fail in the same way. -/
theorem fail (fault : ε) : (accord.except ε).agree related (throw fault) (throw fault) :=
  accord.pure (.error fault)

/-- Where both machines fail first, nothing comes behind. -/
theorem failFirst {after : γ → δ → Prop} (fault : ε) {next : α → ExceptT ε m γ} {next' : β → ExceptT ε m' δ} :
    (accord.except ε).agree after (throw fault >>= next) (throw fault >>= next') := by
  have never : (accord.except ε).agree (fun (_ : α) (_ : β) => False) (throw fault) (throw fault) :=
    accord.fail fault
  exact (accord.except ε).bind never fun _ _ impossible => impossible.elim

/-- What fails on both machines is handled alike. -/
theorem attempt {action : ExceptT ε m α} {action' : ExceptT ε m' β} {handle : ε → ExceptT ε m α}
    {handle' : ε → ExceptT ε m' β} (agrees : (accord.except ε).agree related action action')
    (handled : ∀ fault, (accord.except ε).agree related (handle fault) (handle' fault)) :
    (accord.except ε).agree related (tryCatch action handle) (tryCatch action' handle') := by
  refine accord.bind agrees fun result result' ends => ?_
  cases ends with
  | error fault => exact handled fault
  | ok same => exact accord.pure (.ok same)

end Failing

/-- Actions with a state beside each are in accord when they also leave the same state. -/
def both (σ : Type) : Accord (StateT σ m) (StateT σ m') shown shown' :=
  let lift {α : Type} {action : m α} {action' : m' α} (agrees : accord.agree Eq action action') (state : σ) :
      accord.agree (fun ended ended' => ended.1 = ended'.1 ∧ ended.2 = ended'.2)
        ((StateT.lift action).run state) ((StateT.lift action').run state) :=
    accord.next agrees fun _ => accord.pure ⟨rfl, rfl⟩
  { agree := fun related action action' => ∀ state,
      accord.agree (fun ended ended' => related ended.1 ended'.1 ∧ ended.2 = ended'.2)
        (action.run state) (action'.run state)
    pure := fun same _ => accord.pure ⟨same, rfl⟩
    bind := by
      intro _ _ _ _ related after first first' next next' begins goes state
      refine accord.bind (begins state) ?_
      -- Both sides go on with the one state that they were left.
      rintro ⟨value, left⟩ ⟨value', _⟩ ⟨same, rfl⟩
      exact goes value value' same left
    working := lift accord.working
    kind? := fun path => lift (accord.kind? path)
    read := fun path => lift (accord.read path)
    write := fun path content => lift (accord.write path content)
    makeDirectories := fun path => lift (accord.makeDirectories path)
    environment := lift accord.environment
    now := lift accord.now
    pause := fun span => lift (accord.pause span)
    shows := by
      intro action action' here there
      obtain ⟨inner, shows, rfl⟩ := here.stateT
      obtain ⟨inner', shows', rfl⟩ := there.stateT
      exact lift (accord.shows shows shows') }

/-- An action that leaves the state beside it alone is in accord among those that may not. -/
theorem liftBoth {σ α : Type} {action : m α} {action' : m' α} (agrees : accord.agree Eq action action') :
    (accord.both σ).agree Eq (StateT.lift action) (StateT.lift action') :=
  fun _ => accord.next agrees fun _ => accord.pure ⟨rfl, rfl⟩

/-- The state beside an action is changed alike. -/
theorem modifyGet {σ α : Type} (change : σ → α × σ) :
    (accord.both σ).agree Eq (MonadStateOf.modifyGet change) (MonadStateOf.modifyGet change) :=
  fun _ => accord.pure ⟨rfl, rfl⟩

/-- Actions with a state beside the first only are in accord when that state makes no difference. -/
def beside (σ : Type) : Accord (StateT σ m) m' shown shown' :=
  let lift {α : Type} {action : m α} {action' : m' α} (agrees : accord.agree Eq action action') (state : σ) :
      accord.agree (fun ended value => ended.1 = value) ((StateT.lift action).run state) action' := by
    have bound : accord.agree (fun ended value => ended.1 = value)
        (action >>= fun value => Pure.pure (value, state)) (action' >>= Pure.pure) :=
      accord.next agrees fun _ => accord.pure rfl
    rwa [bind_pure] at bound
  { agree := fun related action action' => ∀ state,
      accord.agree (fun ended value => related ended.1 value) (action.run state) action'
    pure := fun same _ => accord.pure same
    bind := by
      intro _ _ _ _ related after first first' next next' begins goes state
      refine accord.bind (begins state) ?_
      rintro ⟨value, left⟩ value' same
      exact goes value value' same left
    working := lift accord.working
    kind? := fun path => lift (accord.kind? path)
    read := fun path => lift (accord.read path)
    write := fun path content => lift (accord.write path content)
    makeDirectories := fun path => lift (accord.makeDirectories path)
    environment := lift accord.environment
    now := lift accord.now
    pause := fun span => lift (accord.pause span)
    shows := by
      intro action action' here there
      obtain ⟨inner, shows, rfl⟩ := here.stateT
      exact lift (accord.shows shows there) }

end Accord

/-! ### Machines that are values -/

/-- The same has been done on two machines, but for what was shown; of the output of the first
something holds. -/
structure SameDeeds (held : String → Prop) (world world' : World) : Prop where
  disk : world'.disk = world.disk
  environment : world'.environment = world.environment
  clock : world'.clock = world.clock
  said : held world.said

namespace SameDeeds

variable {held : String → Prop} {world world' : World}

/-- A change of the disk is made on both machines, or fails on both. -/
theorem changeDisk (same : SameDeeds held world world') (change : Disk → Except FileFault Disk) :
    ((World.changeDisk change).run world).1 = ((World.changeDisk change).run world').1 ∧
      SameDeeds held ((World.changeDisk change).run world).2 ((World.changeDisk change).run world').2 := by
  -- Both changes are made to one disk.
  have disk := same.disk
  simp only [World.changeDisk, StateT.run, disk]
  cases change world.disk with
  | error fault => exact ⟨rfl, same⟩
  | ok changed => exact ⟨rfl, { same with disk := rfl }⟩

end SameDeeds

/-- Machines on which the same is done are in accord, however they are shown things; where nothing is
put on the output of the first, what holds of it goes on to hold. -/
def Accord.worlds (shown shown' : Presentation) (held : String → Prop)
    (kept : shown.quiet = false → ∀ said text, held said → held (said ++ text)) :
    Accord (StateM World) (StateM World) shown shown' where
  agree related action action' := ∀ world world', SameDeeds held world world' →
    related (action.run world).1 (action'.run world').1 ∧
      SameDeeds held (action.run world).2 (action'.run world').2
  pure same _ _ near := ⟨same, near⟩
  bind begins goes world world' near := by
    obtain ⟨same, left⟩ := begins world world' near
    exact goes _ _ same _ _ left
  working world world' near := ⟨congrArg (fun disk : Disk => Path.ofNames disk.working) near.disk.symm, near⟩
  kind? path world world' near := ⟨congrArg (fun disk : Disk => (disk.node? path).map Node.kind) near.disk.symm, near⟩
  read path world world' near := ⟨congrArg (·.read path) near.disk.symm, near⟩
  write path content world world' near := near.changeDisk _
  makeDirectories path world world' near := near.changeDisk _
  environment world world' near := ⟨near.environment.symm, near⟩
  now world world' near := ⟨near.clock.symm, near⟩
  pause span world world' near := by
    have later : (⟨world'.clock.nanoseconds + span.nanoseconds⟩ : Duration) =
        ⟨world.clock.nanoseconds + span.nanoseconds⟩ := by rw [near.clock]
    exact ⟨rfl, { near with clock := later }⟩
  shows {action action'} here there world world' near := by
    refine ⟨rfl, ?_⟩
    -- One machine is shown something, then the other.
    have shown_ : SameDeeds held (action.run world).2 world' := by
      cases here with
      | nothing => exact near
      | tell text => exact { near with }
      | say loud text => exact { near with said := kept loud _ _ near.said }
    cases there with
    | nothing => exact shown_
    | tell text => exact { shown_ with }
    | say loud text => exact { shown_ with }

end Placard
