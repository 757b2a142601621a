import Mathlib.Data.List.Basic
import Placard.Command.Invocation
import Placard.Proofs.Except
import Placard.Proofs.Keyed

/-! What the arguments of a command line decide, and which of them only say how results are shown. -/

namespace Placard

/-- An argument that says only how results are shown. -/
def Argument.isStyle : Argument → Bool
  | output | color | verbose | quiet => true
  | _ => false

/-- Arguments without those that say only how results are shown. -/
def substance (given : List (Argument × String)) : List (Argument × String) :=
  given.filter fun pair => !pair.1.isStyle

/-- The arguments of levels without those that say only how results are shown. -/
def substances (levels : List (Level × List (Argument × String))) :
    List (Level × List (Argument × String)) :=
  levels.map fun (level, given) => (level, substance given)

/-- Two command lines that are refused for the same mistake, or that give the same arguments after the same
commands but for those that say how results are shown. -/
def Restyled (environment : List (String × String)) (words words' : List String) : Prop :=
  EndAlike (fun levels levels' => substances levels' = substances levels)
    (Command.readWords environment words) (Command.readWords environment words')

/-! ### Arguments that are checked -/

/-- Every value among arguments is one that its argument takes. -/
def Checked (given : List (Argument × String)) : Prop :=
  ∀ argument value, (argument, value) ∈ given → argument.check value = .ok ()

namespace Command.Progress

variable {environment : List (String × String)} {level : Level} {progress next : Progress}

/-- What is filed is looked over first. -/
theorem checked_file {argument : Argument} {value : String} (checked : Checked progress.given)
    (filed : progress.file argument value = .ok next) : Checked next.given := by
  unfold file at filed
  obtain ⟨-, filed⟩ := check_eq_ok_iff.mp filed
  obtain ⟨⟨⟩, fine, made⟩ := bind_eq_ok_iff.mp filed
  cases made
  intro other text member
  rcases List.mem_append.mp member with old | new
  · exact checked other text old
  · cases List.mem_singleton.mp new
    exact fine

/-- What is settled is looked over first. -/
theorem checked_settle (checked : Checked progress.given) (settled : progress.settle = .ok next) :
    Checked next.given := by
  unfold settle at settled
  split at settled
  · cases settled
    exact checked
  · cases settled
  · have cleared : Checked ({ progress with pending := none } : Progress).given := checked
    exact checked_file cleared settled

/-- An argument that is taken leaves checked arguments. -/
theorem checked_take {argument : Argument} {attached : Option String} (checked : Checked progress.given)
    (taken : progress.take argument attached = .ok next) : Checked next.given := by
  obtain ⟨settled, settles, taken⟩ := bind_eq_ok_iff.mp taken
  have before := checked_settle checked settles
  cases attached with
  | some value => exact checked_file before taken
  | none =>
    cases taken
    exact before

/-- A switch leaves checked arguments. -/
theorem checked_turn {switch : Argument} (checked : Checked progress.given)
    (turned : progress.turn switch = .ok next) : Checked next.given := by
  obtain ⟨settled, settles, turned⟩ := bind_eq_ok_iff.mp turned
  split at turned
  · cases turned
  · cases turned
  · exact checked_file (checked_settle checked settles) turned

/-- Letters leave checked arguments. -/
theorem checked_takeLetters {letters : List Char} (checked : Checked progress.given)
    (taken : takeLetters level progress letters = .ok next) : Checked next.given := by
  induction letters generalizing progress with
  | nil =>
    cases taken
    exact checked
  | cons letter rest ih =>
    unfold takeLetters at taken
    split at taken
    · cases taken
    · -- Behind a switch, reading goes on with the other letters; else they are the value.
      split at taken
      · obtain ⟨turned, turns, taken⟩ := bind_eq_ok_iff.mp taken
        exact ih (checked_turn checked turns) taken
      · split at taken <;> exact checked_take checked taken

/-- A form leaves checked arguments. -/
theorem checked_takeForm {word : List Char} (checked : Checked progress.given)
    (taken : takeForm level progress word = .ok next) : Checked next.given := by
  unfold takeForm at taken
  dsimp only at taken
  split at taken
  · cases taken
  · split at taken
    · split at taken
      · cases taken
      · exact checked_turn checked taken
    · exact checked_take checked taken

/-- A value leaves checked arguments: it is looked over when it is settled. -/
theorem checked_takeValue {word : String} (checked : Checked progress.given)
    (taken : progress.takeValue level word = .ok next) : Checked next.given := by
  unfold takeValue at taken
  split at taken
  · cases taken
    exact checked
  · cases taken
  · split at taken
    · cases taken
    · obtain ⟨settled, settles, rfl⟩ := map_eq_ok_iff.mp taken
      have before := checked_settle checked settles
      exact before

/-- Every word leaves checked arguments. -/
theorem checked_step {word : String} (checked : Checked progress.given)
    (stepped : progress.step level word = .ok next) : Checked next.given := by
  unfold step at stepped
  split at stepped
  · exact checked_takeValue checked stepped
  · split at stepped
    · cases stepped
      exact checked
    · exact checked_takeForm checked stepped
    · exact checked_takeLetters checked stepped
    · exact checked_takeValue checked stepped

/-- Values that are looked over one by one are all fine exactly when nothing is found wrong. -/
theorem checked_iff_forM {given : List (Argument × String)} :
    (given.forM fun (argument, value) => argument.check value) = .ok () ↔ Checked given := by
  induction given with
  | nil => exact iff_of_true rfl fun _ _ member => nomatch member
  | cons first others ih =>
    obtain ⟨argument, value⟩ := first
    refine Iff.trans bind_eq_ok_iff ⟨fun ⟨_, here, behind⟩ other text member => ?_, fun checked => ?_⟩
    · rcases List.mem_cons.mp member with same | later
      · cases same
        exact here
      · exact ih.mp behind other text later
    · exact ⟨⟨⟩, checked argument value List.mem_cons_self,
        ih.mpr fun other text later => checked other text (List.mem_cons_of_mem _ later)⟩

/-- What a level has to give in the end: neither rivals nor too little, and a command where one has to follow. -/
structure Complete (level : Level) (follows : Bool) (given : List (Argument × String)) : Prop where
  command : (level.wantsCommand && !follows) = false
  rivals : (!level.rivals.isEmpty && level.rivals.all fun argument => given.any (·.1 == argument)) = false
  required : (level.required.all fun argument => given.any (·.1 == argument)) = true

/-- A level ends when its last argument is settled, all that stands in is checked, and all is given. -/
theorem finish_eq_ok_iff {follows : Bool} {given : List (Argument × String)} :
    progress.finish environment level follows = .ok given ↔
      (∃ settled, progress.settle = .ok settled ∧ settled.given = given) ∧
        Checked (standIns environment given) ∧ Complete level follows given := by
  constructor
  · intro finished
    obtain ⟨settled, settles, finished⟩ := bind_eq_ok_iff.mp finished
    obtain ⟨⟨⟩, fine, finished⟩ := bind_eq_ok_iff.mp finished
    obtain ⟨command, finished⟩ := check_eq_ok_iff.mp finished
    obtain ⟨rivals, finished⟩ := check_eq_ok_iff.mp finished
    obtain ⟨required, finished⟩ := check_eq_ok_iff.mp finished
    cases finished
    exact ⟨⟨settled, settles, rfl⟩, checked_iff_forM.mp fine, Bool.eq_false_iff.mpr command,
      Bool.eq_false_iff.mpr rivals, by simpa using required⟩
  · rintro ⟨⟨settled, settles, rfl⟩, fine, command, rivals, required⟩
    rw [finish, settles, ok_bind]
    refine bind_eq_ok_iff.mpr ⟨⟨⟩, checked_iff_forM.mpr fine, ?_⟩
    simp only [command, rivals, required]
    rfl

/-- A level ends with checked arguments, and variables stand in with values that are checked too. -/
theorem checked_finish {follows : Bool} {given : List (Argument × String)} (checked : Checked progress.given)
    (finished : progress.finish environment level follows = .ok given) :
    Checked given ∧ Checked (standIns environment given) := by
  obtain ⟨⟨settled, settles, rfl⟩, fine, -⟩ := finish_eq_ok_iff.mp finished
  exact ⟨checked_settle checked settles, fine⟩

end Command.Progress

namespace Command

variable {environment : List (String × String)}

/-- At every level, the arguments are checked, and so are the variables that stand in for others. -/
def AllChecked (environment : List (String × String)) (levels : List (Level × List (Argument × String))) : Prop :=
  ∀ level given, (level, given) ∈ levels → Checked given ∧ Checked (Progress.standIns environment given)

/-- A word is read at its level: it has to be a value, or it is no command. -/
def Progress.stays (level : Level) (progress : Progress) (word : String) : Bool :=
  progress.closed || progress.awaited?.isSome ||
    !(level.wantsCommand && word == "help") && (level.commands.lookup word).isNone

/-- A word is taken at its level, and reading goes on there, or it is a command, and reading begins anew below. -/
theorem readFrom_cons_eq_ok_iff {level : Level} {progress : Progress} {word : String} {rest : List String}
    {levels : List (Level × List (Argument × String))} :
    readFrom environment level progress (word :: rest) = .ok levels ↔
      (progress.stays level word = true ∧ ∃ next, progress.step level word = .ok next ∧
        readFrom environment level next rest = .ok levels) ∨
      progress.stays level word = false ∧ ∃ below deeper given, level.commands.lookup word = some below ∧
        readFrom environment below {} rest = .ok deeper ∧
        progress.finish environment level true = .ok given ∧ levels = (level, given) :: deeper := by
  rw [readFrom, Progress.stays]
  cases place : progress.closed || progress.awaited?.isSome with
  | true => simp [bind_eq_ok_iff]
  | false =>
    cases help : level.wantsCommand && word == "help" with
    | true =>
      -- Nothing is a command by the name of the question for help.
      have unknown : level.commands.lookup word = none := by
        obtain rfl : word = "help" := by simpa using (Bool.and_eq_true_iff.mp help).2
        cases level <;> rfl
      simp [unknown]
    | false =>
      cases known : level.commands.lookup word with
      | none => simp [bind_eq_ok_iff]
      | some below => simp [bind_eq_ok_iff, @eq_comm _ levels]

/-- Words that can be read make at least one level, and all that they give is checked. -/
theorem checked_readFrom {level : Level} {progress : Progress} {words : List String}
    {levels : List (Level × List (Argument × String))} (checked : Checked progress.given)
    (read : readFrom environment level progress words = .ok levels) :
    levels ≠ [] ∧ AllChecked environment levels := by
  induction words generalizing level progress levels with
  | nil =>
    obtain ⟨given, finished, made⟩ := bind_eq_ok_iff.mp read
    cases made
    refine ⟨List.cons_ne_nil _ _, fun _ _ member => ?_⟩
    cases List.mem_singleton.mp member
    exact Progress.checked_finish checked finished
  | cons word rest ih =>
    rcases readFrom_cons_eq_ok_iff.mp read with ⟨-, next, stepped, read⟩ | ⟨-, below, deeper, given, -, readDeeper,
      finished, rfl⟩
    · -- A word that is taken at its level leaves checked arguments, with which the reading goes on.
      exact ih (Progress.checked_step checked stepped) read
    · -- A command ends its level, and reading begins anew below it.
      refine ⟨List.cons_ne_nil _ _, fun _ _ member => ?_⟩
      rcases List.mem_cons.mp member with same | later
      · cases same
        exact Progress.checked_finish checked finished
      · have nothing : Checked ({} : Progress).given := fun _ _ member => by cases member
        exact (ih nothing readDeeper).2 _ _ later

/-- An argument with the value of its variable, if it is not given and there is one. -/
def Progress.standIn? (environment : List (String × String)) (given : List (Argument × String))
    (argument : Argument) : Option (Argument × String) :=
  if given.any (·.1 == argument) then none
  else argument.standIn?.bind fun name => (environment.lookup name).map fun value => (argument, value)

/-- Variables stand in for arguments one by one. -/
theorem Progress.standIns_eq (given : List (Argument × String)) :
    standIns environment given = Level.everywhere.filterMap (standIn? environment given) := by
  refine List.filterMap_congr fun argument _ => ?_
  rw [standIn?]
  split
  · rfl
  · cases argument.standIn? with
    | none => rfl
    | some name =>
      rw [Option.bind_some, Option.map_eq_bind]
      rfl

/-- Where more is given, variables stand in for less. -/
theorem Progress.standIns_subset {own given : List (Argument × String)} (among : own ⊆ given) :
    standIns environment given ⊆ standIns environment own := by
  rw [standIns_eq, standIns_eq]
  intro pair member
  obtain ⟨argument, known, found⟩ := List.mem_filterMap.mp member
  refine List.mem_filterMap.mpr ⟨argument, known, ?_⟩
  unfold standIn? at found ⊢
  split at found
  · cases found
  · rename_i missing
    rw [if_neg, found]
    -- What the level gives would be given by all of them together.
    intro present
    obtain ⟨other, member, same⟩ := List.any_eq_true.mp present
    exact missing (List.any_eq_true.mpr ⟨other, among member, same⟩)

/-- What all levels give together is checked. -/
theorem AllChecked.merged {levels : List (Level × List (Argument × String))} (some : levels ≠ [])
    (checked : AllChecked environment levels) : Checked (Invocation.merged environment levels) := by
  intro argument value member
  rcases List.mem_append.mp member with given | standing
  · obtain ⟨⟨level, own⟩, among, here⟩ := List.mem_flatMap.mp given
    exact (checked level own (List.mem_reverse.mp among)).1 argument value here
  · -- What stands in for what no level gives stands in at each of them.
    obtain ⟨⟨level, own⟩, others, rfl⟩ := List.exists_cons_of_ne_nil some
    refine (checked level own List.mem_cons_self).2 argument value (Progress.standIns_subset ?_ standing)
    intro pair member
    exact List.mem_flatMap.mpr ⟨_, List.mem_reverse.mpr List.mem_cons_self, member⟩

end Command

/-! ### Arguments of substance -/

section Substance

variable {environment : List (String × String)} {given : List (Argument × String)} {argument : Argument}

/-- An argument of substance is given by what is of substance, or not at all. -/
theorem any_substance (matters : argument.isStyle = false) :
    (substance given).any (·.1 == argument) = given.any (·.1 == argument) := by
  induction given with
  | nil => rfl
  | cons first others ih =>
    obtain ⟨other, value⟩ := first
    rw [substance, List.filter_cons]
    split
    · simp only [List.any_cons, ← ih, substance]
    · -- An argument of style is not the one that is asked for.
      rename_i style
      have passed : (other == argument) = false := beq_false_of_ne fun same => by simp_all
      simp only [List.any_cons, passed, Bool.false_or, ← ih, substance]

/-- An argument of substance has the value that it has among what is of substance. -/
theorem lookup_substance (matters : argument.isStyle = false) :
    (substance given).lookup argument = given.lookup argument := by
  induction given with
  | nil => rfl
  | cons first others ih =>
    obtain ⟨other, value⟩ := first
    rw [substance, List.filter_cons]
    split
    · simp only [List.lookup_cons, ← ih, substance]
    · rename_i style
      have passed : (argument == other) = false := beq_false_of_ne fun same => by simp_all
      simp only [List.lookup_cons, passed, ← ih, substance]

/-- The command depends on the arguments of its level, and not on those that may stand everywhere. -/
theorem Command.ofLevel_congr {given given' : List (Argument × String)}
    (same : ∀ argument, argument ∉ Level.everywhere → given'.lookup argument = given.lookup argument)
    (level : Level) : Command.ofLevel given' level = Command.ofLevel given level := by
  cases level <;>
    simp +decide only [ofLevel, templateOf, nameOf, connectionOf, patchOf, placeOf, watchOf, isGiven, textOf?,
      valueOf?, same]

/-- The command depends on what is of substance among the arguments of its level. -/
theorem Command.ofLevel_substance (level : Level) :
    Command.ofLevel (substance given) level = Command.ofLevel given level := by
  -- Arguments of style may stand everywhere.
  refine ofLevel_congr (fun argument other => lookup_substance ?_) level
  revert other
  cases argument <;> decide

/-- Variables stand in for arguments of substance wherever no argument of substance is given. -/
theorem substance_standIns :
    substance (Command.Progress.standIns environment (substance given)) =
      substance (Command.Progress.standIns environment given) := by
  rw [Command.Progress.standIns_eq, Command.Progress.standIns_eq]
  unfold substance
  rw [List.filter_filterMap, List.filter_filterMap]
  refine List.filterMap_congr fun argument _ => ?_
  cases style : argument.isStyle with
  | false => rw [Command.Progress.standIn?, Command.Progress.standIn?, ← substance, any_substance style]
  | true =>
    -- A variable for an argument of style stands in on one side at most, and is left out.
    have leftOut (given : List (Argument × String)) :
        (Command.Progress.standIn? environment given argument).filter (fun pair => !pair.1.isStyle) = none := by
      rw [Option.filter_eq_none_iff]
      intro pair found
      unfold Command.Progress.standIn? at found
      split at found
      · cases found
      · obtain ⟨name, -, found⟩ := Option.bind_eq_some_iff.mp found
        obtain ⟨value, -, rfl⟩ := Option.map_eq_some_iff.mp found
        simp [style]
    rw [leftOut, leftOut]

variable {levels levels' : List (Level × List (Argument × String))}

/-- What levels give together of substance is what they give of substance. -/
theorem substance_flatMap (levels : List (Level × List (Argument × String))) :
    substance (levels.reverse.flatMap (·.2)) = (substances levels).reverse.flatMap (·.2) := by
  rw [substance, List.filter_flatMap, substances, ← List.map_reverse, List.flatMap_map]
  rfl

/-- What levels and variables give together of substance depends on what the levels give of substance. -/
theorem substance_merged (same : substances levels' = substances levels) :
    substance (Invocation.merged environment levels') = substance (Invocation.merged environment levels) := by
  have given : substance (levels'.reverse.flatMap (·.2)) = substance (levels.reverse.flatMap (·.2)) := by
    rw [substance_flatMap, substance_flatMap, same]
  have appended (given others : List (Argument × String)) :
      substance (given ++ others) = substance given ++ substance others := List.filter_append ..
  rw [Invocation.merged, Invocation.merged, appended, appended, ← substance_standIns, given,
    substance_standIns]

end Substance

/-! ### Command lines -/

namespace Invocation

variable {environment : List (String × String)} {levels levels' : List (Level × List (Argument × String))}

/-- The command of the last level, with the arguments given there. -/
def commandOf (levels : List (Level × List (Argument × String))) : Except Usage Command :=
  match levels.getLast? with
  | some (level, own) => Command.ofLevel own level
  | none => throw .missingCommand

/-- The files and the time limit that arguments name. -/
def sourcesOf (given : List (Argument × String)) : Sources :=
  ⟨Command.textOf? given .settings, Command.textOf? given .connections, Command.textOf? given .timeout⟩

/-- The command depends on what levels give of substance. -/
theorem commandOf_substances (levels : List (Level × List (Argument × String))) :
    commandOf (substances levels) = commandOf levels := by
  unfold commandOf substances
  rw [List.getLast?_map]
  cases levels.getLast? with
  | none => rfl
  | some last => exact Command.ofLevel_substance last.1

/-- The files and the time limit depend on what is given of substance. -/
theorem sourcesOf_substance (given : List (Argument × String)) :
    sourcesOf (substance given) = sourcesOf given := by
  simp +decide only [sourcesOf, Command.textOf?, lookup_substance]

/-- A value that was checked to be one of some words can be read. -/
theorem valueOf?_checked {α : Type} {given : List (Argument × String)} (checked : Checked given)
    {argument : Argument} {choices : List (String × α)}
    (check : ∀ value, argument.check value = discard (Usage.readChoice choices value)) :
    ∃ found, Command.valueOf? given argument (Usage.readChoice choices) = .ok found := by
  unfold Command.valueOf?
  cases held : given.lookup argument with
  | none => exact ⟨none, rfl⟩
  | some value =>
    have fine := checked argument value (Keyed.mem_of_lookup held)
    rw [check] at fine
    obtain ⟨choice, read, -⟩ := map_eq_ok_iff.mp fine
    exact ⟨some choice, map_eq_ok_iff.mpr ⟨choice, read, rfl⟩⟩

/-- How arguments ask for results to be put out. -/
def presentationOf (given : List (Argument × String)) : Except Usage Presentation := do
  return {
    format := (← Command.valueOf? given .output (Usage.readChoice OutputFormat.words)).getD .table
    color := (← Command.valueOf? given .color (Usage.readChoice ColorMode.words)).getD .auto
    quiet := Command.isGiven given .quiet }

/-- A command line is put together from its command, its files and the way in which results are put out. -/
theorem read_levels {words : List String} (read : Command.readWords environment words = .ok levels) :
    Invocation.read environment words = do
      let command ← commandOf levels
      let presentation ← presentationOf (merged environment levels)
      return ⟨command, sourcesOf (merged environment levels), presentation⟩ := by
  rw [Invocation.read, read, ok_bind, commandOf, presentationOf]
  dsimp only
  cases levels.getLast? with
  | none => rfl
  | some last =>
    obtain ⟨level, own⟩ := last
    dsimp only
    cases Command.ofLevel own level with
    | error usage => rfl
    | ok command =>
      simp only [ok_bind]
      cases Command.valueOf? (merged environment levels) .output (Usage.readChoice OutputFormat.words) with
      | error usage => rfl
      | ok format =>
        simp only [ok_bind]
        cases Command.valueOf? (merged environment levels) .color (Usage.readChoice ColorMode.words) <;> rfl

/-- Behind the arguments, only the command can be wrong with a command line. -/
theorem read_eq {words : List String} (read : Command.readWords environment words = .ok levels) :
    ∃ presentation, Invocation.read environment words = (commandOf levels).map fun command =>
      ⟨command, sourcesOf (merged environment levels), presentation⟩ := by
  have nothing : Checked ({} : Command.Progress).given := fun _ _ member => by cases member
  obtain ⟨some, checked⟩ := Command.checked_readFrom nothing read
  have all := checked.merged some
  -- Format and color were looked over when they were filed, so reading them again finds no mistake.
  obtain ⟨format, output⟩ := valueOf?_checked all fun value => show Argument.check .output value = _ from rfl
  obtain ⟨mode, color⟩ := valueOf?_checked all fun value => show Argument.check .color value = _ from rfl
  refine ⟨⟨format.getD .table, mode.getD .auto, Command.isGiven (merged environment levels) .quiet⟩, ?_⟩
  rw [read_levels read, presentationOf, output, color]
  cases commandOf levels <;> rfl

end Invocation

/-- Command lines that differ in style only are both refused for one mistake, or ask for the same. -/
theorem Restyled.read {environment : List (String × String)} {words words' : List String}
    (restyled : Restyled environment words words') :
    EndAlike (fun invocation invocation' => invocation'.command = invocation.command ∧
        invocation'.sources = invocation.sources)
      (Invocation.read environment words) (Invocation.read environment words') := by
  rcases restyled.either with ⟨usage, here, there⟩ | ⟨levels, levels', same, here, there⟩
  · rw [Invocation.read, Invocation.read, here, there]
    exact .error usage
  · obtain ⟨presentation, read⟩ := Invocation.read_eq here
    obtain ⟨presentation', read'⟩ := Invocation.read_eq there
    have command : Invocation.commandOf levels' = Invocation.commandOf levels := by
      rw [← Invocation.commandOf_substances levels', same, Invocation.commandOf_substances]
    have sources : Invocation.sourcesOf (Invocation.merged environment levels') =
        Invocation.sourcesOf (Invocation.merged environment levels) := by
      rw [← Invocation.sourcesOf_substance, substance_merged same, Invocation.sourcesOf_substance]
    rw [read, read', command, sources]
    cases Invocation.commandOf levels with
    | error usage => exact .error usage
    | ok command => exact .ok ⟨rfl, rfl⟩

end Placard
