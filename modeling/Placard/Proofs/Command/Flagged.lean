import Placard.Proofs.Command.Arguments
import Placard.Proofs.Command.Unset

/-! A file of connections that is named in front of a command line: all else is read as it was without. -/

namespace Placard

/-! ### Reading on behind the name -/

namespace Command.Progress

/-- A file of connections is among what is given. -/
def names (given : List (Argument × String)) : Bool := given.any (·.1 == .connections)

/-- Progress with a file of connections named in front of all else. -/
def named (path : String) (progress : Progress) : Progress :=
  { progress with given := (.connections, path) :: progress.given }

/-- One step of reading goes from a progress to the next one, and loses nothing that is given. Behind the name
of a file, the same step goes the same way, unless it names a file itself. -/
structure Advances (path : String) (action : Progress → Except Usage Progress) (progress next : Progress) :
    Prop where
  keeps : names next.given = false → names progress.given = false
  follows : names next.given = false → action (progress.named path) = .ok (next.named path)

variable {path : String} {level : Level} {progress next : Progress}

namespace Advances

/-- Two steps in a row. -/
theorem bind {action continued : Progress → Except Usage Progress} {final : Progress}
    (first : Advances path action progress next) (second : Advances path continued next final) :
    Advances path (fun progress => action progress >>= continued) progress final where
  keeps silent := first.keeps (second.keeps silent)
  follows silent := by
    show action (progress.named path) >>= continued = _
    rw [first.follows (second.keeps silent), ok_bind]
    exact second.follows silent

/-- A step that leaves what is given alone. -/
theorem of_given {action : Progress → Except Usage Progress} (same : next.given = progress.given)
    (follows : action (progress.named path) = .ok (next.named path)) : Advances path action progress next :=
  ⟨fun silent => same ▸ silent, fun _ => follows⟩

/-- Filing an argument. -/
theorem file {argument : Argument} {value : String} (filed : progress.file argument value = .ok next) :
    Advances path (·.file argument value) progress next := by
  unfold Progress.file at filed
  obtain ⟨fresh, filed⟩ := check_eq_ok_iff.mp filed
  obtain ⟨⟨⟩, fine, made⟩ := bind_eq_ok_iff.mp filed
  cases made
  have parts (silent : names (progress.given ++ [(argument, value)]) = false) :
      names progress.given = false ∧ (argument == .connections) = false := by
    simpa only [names, List.any_append, List.any_cons, List.any_nil, Bool.or_false, Bool.or_eq_false_iff]
      using silent
  refine ⟨fun silent => (parts silent).1, fun silent => ?_⟩
  -- Another argument than the file is no conflict with it.
  have other : (Argument.connections == argument) = false := by
    rw [BEq.comm]
    exact (parts silent).2
  have fresh' : ¬ (!argument.mayRepeat && (progress.named path).given.any (·.1 == argument)) = true := by
    rw [named, List.any_cons, other, Bool.false_or]
    exact fresh
  rw [Progress.file, if_neg fresh', fine]
  rfl

/-- Filing what was pending. -/
theorem settle (settled : progress.settle = .ok next) : Advances path Progress.settle progress next := by
  unfold Progress.settle at settled
  split at settled
  · rename_i nothing
    cases settled
    exact .of_given rfl (by simp only [Progress.settle, named, nothing])
  · cases settled
  · rename_i argument value pending
    obtain ⟨keeps, follows⟩ := @file path { progress with pending := none } next argument value settled
    refine ⟨keeps, fun silent => ?_⟩
    rw [Progress.settle]
    simp only [named, pending]
    exact follows silent

/-- Taking an argument whose value may still be to come. -/
theorem take {argument : Argument} {attached : Option String}
    (taken : progress.take argument attached = .ok next) :
    Advances path (·.take argument attached) progress next := by
  obtain ⟨settled, settles, taken⟩ := bind_eq_ok_iff.mp taken
  refine (settle settles).bind ?_
  cases attached with
  | some value => exact file taken
  | none =>
    cases taken
    exact .of_given rfl rfl

/-- Taking a switch. -/
theorem turn {switch : Argument} (turned : progress.turn switch = .ok next) :
    Advances path (·.turn switch) progress next := by
  obtain ⟨settled, settles, turned⟩ := bind_eq_ok_iff.mp turned
  refine (settle settles).bind ?_
  split at turned
  · cases turned
  · cases turned
  · exact file turned

/-- Taking letters, one by one. -/
theorem takeLetters {letters : List Char} (taken : Progress.takeLetters level progress letters = .ok next) :
    Advances path (Progress.takeLetters level · letters) progress next := by
  induction letters generalizing progress with
  | nil =>
    cases taken
    exact .of_given rfl rfl
  | cons letter rest ih =>
    unfold Progress.takeLetters at taken ⊢
    cases known : level.shortArgument? letter with
    | none =>
      rw [known] at taken
      cases taken
    | some argument =>
      simp only [known] at taken ⊢
      cases switch : argument.isSwitch with
      | true =>
        simp only [switch, if_true] at taken ⊢
        obtain ⟨turned, turns, taken⟩ := bind_eq_ok_iff.mp taken
        exact (turn turns).bind (ih taken)
      | false =>
        simp only [switch, Bool.false_eq_true, if_false] at taken ⊢
        split at taken <;> exact take taken

/-- Taking a form. -/
theorem takeForm {word : List Char} (taken : progress.takeForm level word = .ok next) :
    Advances path (·.takeForm level word) progress next := by
  unfold Progress.takeForm at taken ⊢
  dsimp only at taken ⊢
  split at taken
  · cases taken
  · rename_i argument known
    cases switch : argument.isSwitch with
    | true =>
      simp only [switch, if_true] at taken ⊢
      -- A switch comes without a value.
      split at taken
      · cases taken
      · exact turn taken
    | false =>
      simp only [switch, Bool.false_eq_true, if_false] at taken ⊢
      exact take taken

/-- Taking a value. -/
theorem takeValue {word : String} (taken : progress.takeValue level word = .ok next) :
    Advances path (·.takeValue level word) progress next := by
  unfold Progress.takeValue at taken ⊢
  -- Which argument a value is for does not depend on what is given.
  have awaited (progress : Progress) : (progress.named path).awaited? = progress.awaited? := rfl
  split at taken
  · rename_i waits
    cases taken
    refine .of_given rfl ?_
    simp only [awaited, waits]
    rfl
  · cases taken
  · rename_i placed waits place
    split at taken
    · cases taken
    · rename_i vacant
      obtain ⟨settled, settles, rfl⟩ := map_eq_ok_iff.mp taken
      obtain ⟨keeps, follows⟩ := @settle path _ _ settles
      refine ⟨keeps, fun silent => ?_⟩
      have vacant' : ¬(progress.named path).filled = true := vacant
      simp only [awaited, waits, place, if_neg vacant', follows silent]
      rfl

/-- Taking a word. -/
theorem step {word : String} (stepped : progress.step level word = .ok next) :
    Advances path (·.step level word) progress next := by
  -- Whether all words are values by now, and what form the word has, does not depend on what is given.
  have closed : (progress.named path).closed = progress.closed := rfl
  have same {action : Progress → Except Usage Progress} (advances : Advances path action progress next)
      (goes : (progress.named path).step level word = action (progress.named path)) :
      Advances path (·.step level word) progress next :=
    ⟨advances.keeps, fun silent => goes.trans (advances.follows silent)⟩
  unfold Progress.step at stepped
  split at stepped
  · rename_i behind
    exact same (takeValue stepped) (by rw [Progress.step, if_pos (closed.trans behind)])
  · rename_i before
    have before' : ¬(progress.named path).closed = true := fun behind => before (closed.symm.trans behind)
    split at stepped
    · rename_i letters
      cases stepped
      exact .of_given rfl (by rw [Progress.step, if_neg before', letters]; rfl)
    · rename_i letters
      exact same (takeForm stepped) (by rw [Progress.step, if_neg before']; grind)
    · rename_i letters
      exact same (takeLetters stepped) (by rw [Progress.step, if_neg before']; grind)
    · exact same (takeValue stepped) (by rw [Progress.step, if_neg before']; grind)

end Advances

variable {environment : List (String × String)} {follows : Bool} {given : List (Argument × String)}

/-- With a variable unset, no other values stand in. -/
theorem standIns_without (name : String) :
    standIns (Variable.without name environment) given ⊆ standIns environment given := by
  rw [standIns_eq, standIns_eq]
  intro pair member
  obtain ⟨argument, known, found⟩ := List.mem_filterMap.mp member
  refine List.mem_filterMap.mpr ⟨argument, known, ?_⟩
  unfold standIn? at found ⊢
  split at found
  · cases found
  · rename_i missing
    rw [if_neg missing]
    obtain ⟨other, stands, found⟩ := Option.bind_eq_some_iff.mp found
    obtain ⟨value, set_, rfl⟩ := Option.map_eq_some_iff.mp found
    have different : other ≠ name := by
      rintro rfl
      have unset := Keyed.mem_of_lookup set_
      simp [Variable.without] at unset
    rw [Variable.lookup_without different] at set_
    simp [stands, set_]

/-- A level ends in the same way with a variable unset. -/
theorem finish_without (name : String) (finished : progress.finish environment level follows = .ok given) :
    progress.finish (Variable.without name environment) level follows = .ok given := by
  obtain ⟨settled, checked, complete⟩ := finish_eq_ok_iff.mp finished
  exact finish_eq_ok_iff.mpr ⟨settled, fun argument value member =>
    checked argument value (standIns_without name member), complete⟩

/-- A level at which no file is named ends in the same way with a file named in front. -/
theorem finish_named (path : String) (finished : progress.finish environment level follows = .ok given)
    (silent : names given = false) : names progress.given = false ∧
      (progress.named path).finish environment level follows = .ok ((.connections, path) :: given) := by
  obtain ⟨⟨settled, settles, rfl⟩, checked, command, rivals, required⟩ := finish_eq_ok_iff.mp finished
  obtain ⟨keeps, goes⟩ := @Advances.settle path _ _ settles
  refine ⟨keeps silent, finish_eq_ok_iff.mpr ⟨⟨_, goes silent, rfl⟩, fun argument value member => ?_, command,
    ?_, ?_⟩⟩
  · exact checked argument value (standIns_subset (List.subset_cons_self _ _) member)
  · -- The file of connections is nobody's rival.
    have free : ∀ argument ∈ level.rivals, (Argument.connections == argument) = false := by
      cases level <;> decide
    rw [← rivals]
    congr 1
    rw [Bool.eq_iff_iff, List.all_eq_true, List.all_eq_true]
    refine forall₂_congr fun argument rival => ?_
    rw [List.any_cons, free argument rival, Bool.false_or]
  · rw [List.all_eq_true] at required ⊢
    intro argument needed
    rw [List.any_cons, required argument needed, Bool.or_true]

end Command.Progress

namespace Command

open Progress (names)

variable {environment : List (String × String)} {level : Level} {progress : Progress} {words : List String}
  {levels : List (Level × List (Argument × String))}

/-- With a variable unset, the same words are read in the same way. -/
theorem readFrom_without (name : String) (read : readFrom environment level progress words = .ok levels) :
    readFrom (Variable.without name environment) level progress words = .ok levels := by
  induction words generalizing level progress levels with
  | nil =>
    obtain ⟨given, finished, made⟩ := bind_eq_ok_iff.mp read
    exact bind_eq_ok_iff.mpr ⟨given, Progress.finish_without name finished, made⟩
  | cons word rest ih =>
    rcases readFrom_cons_eq_ok_iff.mp read with ⟨stays, next, stepped, read⟩ | ⟨leaves, below, deeper, given, known,
      readDeeper, finished, rfl⟩
    · exact readFrom_cons_eq_ok_iff.mpr (.inl ⟨stays, next, stepped, ih read⟩)
    · exact readFrom_cons_eq_ok_iff.mpr (.inr ⟨leaves, below, deeper, given, known, ih readDeeper,
        Progress.finish_without name finished, rfl⟩)

/-- Words that name no file are read in the same way behind the name of one. -/
theorem readFrom_named (path : String) (read : readFrom environment level progress words = .ok levels)
    (silent : ∀ pair ∈ levels, names pair.2 = false) :
    names progress.given = false ∧ ∃ given deeper, levels = (level, given) :: deeper ∧
      readFrom environment level (progress.named path) words =
        .ok ((level, (.connections, path) :: given) :: deeper) := by
  induction words generalizing level progress levels with
  | nil =>
    obtain ⟨given, finished, made⟩ := bind_eq_ok_iff.mp read
    cases made
    obtain ⟨before, finished⟩ := Progress.finish_named path finished (silent _ List.mem_cons_self)
    exact ⟨before, given, [], rfl, bind_eq_ok_iff.mpr ⟨_, finished, rfl⟩⟩
  | cons word rest ih =>
    -- Whether a word is a command does not depend on what is given.
    have same : (progress.named path).stays level word = progress.stays level word := rfl
    rcases readFrom_cons_eq_ok_iff.mp read with ⟨stays, next, stepped, read⟩ | ⟨leaves, below, deeper, given, known,
      readDeeper, finished, rfl⟩
    · obtain ⟨keeps, follows⟩ := @Progress.Advances.step path _ _ _ _ stepped
      obtain ⟨before, given, deeper, rfl, onward⟩ := ih read silent
      exact ⟨keeps before, given, deeper, rfl,
        readFrom_cons_eq_ok_iff.mpr (.inl ⟨same.trans stays, _, follows before, onward⟩)⟩
    · obtain ⟨before, finished⟩ := Progress.finish_named path finished (silent _ List.mem_cons_self)
      exact ⟨before, given, deeper, rfl, readFrom_cons_eq_ok_iff.mpr (.inr ⟨same.trans leaves, below, deeper, _,
        known, readDeeper, finished, rfl⟩)⟩

/-! ### The option in front -/

/-- A path is a value of the option. -/
theorem check_path {path : String} (some_ : path ≠ "") : Argument.check .connections path = .ok () := by
  show discard (Usage.readPath path) = _
  rw [Usage.readPath, if_neg (by simpa using some_)]
  rfl

/-- The option and its path in one word name the file. -/
theorem step_attached {path : String} (some_ : path ≠ "") :
    ({} : Progress).step .top ("--connections=" ++ path) = .ok (Progress.named path {}) := by
  have letters : ("--connections=" ++ path).toList = '-' :: '-' :: ("connections".toList ++ '=' :: path.toList) := by
    rw [String.toList_append]
    rfl
  have form : ({} : Progress).takeForm .top ("connections".toList ++ '=' :: path.toList) =
      ({} : Progress).take .connections (some (.ofList path.toList)) := rfl
  have stepped : ({} : Progress).step .top ("--connections=" ++ path) =
      ({} : Progress).takeForm .top ("connections".toList ++ '=' :: path.toList) := by
    rw [Progress.step, letters]
    rfl
  rw [stepped, form, String.ofList_toList]
  show Progress.file {} .connections path = _
  rw [Progress.file, check_path some_]
  rfl

/-- The option alone waits for its path. -/
theorem step_alone : ({} : Progress).step .top "--connections" = .ok { pending := some (.connections, none) } := rfl

/-- A word with a dash in front is read at its level. -/
theorem stays_dash {word : String} {rest : List Char} (dash : word.toList = '-' :: rest) (level : Level)
    (progress : Progress) : progress.stays level word = true := by
  -- Neither a command nor the question for help begins with a dash.
  have plain {name : String} (first : name.toList.head? ≠ some '-') : word ≠ name := by
    rintro rfl
    rw [dash] at first
    exact first rfl
  have unknown : level.commands.lookup word = none := by
    have names : ∀ pair ∈ level.commands, pair.1.toList.head? ≠ some '-' := by
      cases level <;> decide
    exact List.lookup_eq_none_iff.mpr fun pair member => bne_iff_ne.mpr (plain (names pair member))
  have noHelp : (word == "help") = false := beq_false_of_ne (plain (by decide))
  simp [Progress.stays, unknown, noHelp]

/-- The option was read with its path, which is still to be filed; all words may be values by now. -/
def Progress.waiting (path : String) (closed : Bool) : Progress :=
  { pending := some (.connections, some path), closed := closed }

namespace Progress

variable {path : String}

/-- The path is filed first. -/
theorem settle_waiting (some_ : path ≠ "") (closed : Bool) :
    (waiting path closed).settle = (named path { closed := closed }).settle := by
  show Progress.file { closed := closed } .connections path = _
  rw [file, check_path some_]
  rfl

/-- Any word but two dashes is read as it is once the path is filed. -/
theorem step_waiting (some_ : path ≠ "") (closed : Bool) (level : Level) (word : String) :
    (waiting path closed).step level word = (named path { closed := closed }).step level word ∨
      closed = false ∧ word.toList = ['-', '-'] := by
  have settles := settle_waiting some_ closed
  have value : (waiting path closed).takeValue level word =
      (named path { closed := closed }).takeValue level word := by
    have full : (waiting path closed).awaited? = none := rfl
    have full' : (named path { closed := closed }).awaited? = none := rfl
    rw [takeValue, takeValue, full, full', settles]
    cases level.placed? <;> rfl
  cases closed with
  | true => exact .inl value
  | false =>
    have take (argument : Argument) (attached : Option String) : (waiting path false).take argument attached =
        (named path {}).take argument attached := by
      rw [Progress.take, Progress.take, settles]
    have turn (switch : Argument) : (waiting path false).turn switch = (named path {}).turn switch := by
      rw [Progress.turn, Progress.turn, settles]
    have form (word : List Char) : (waiting path false).takeForm level word = (named path {}).takeForm level word := by
      simp only [takeForm, take, turn]
    have letters (letter : Char) (rest : List Char) : takeLetters level (waiting path false) (letter :: rest) =
        takeLetters level (named path {}) (letter :: rest) := by
      simp only [takeLetters, take, turn]
    by_cases dashes : word.toList = ['-', '-']
    · exact .inr ⟨rfl, dashes⟩
    · refine .inl ?_
      have open_ : (waiting path false).closed = false := rfl
      have open' : (named path {}).closed = false := rfl
      rw [step, step, open_, open', value]
      simp only [Bool.false_eq_true, if_false, form, letters]
      -- Only for two dashes the two go apart.
      split
      · contradiction
      · rfl
      · rfl
      · rfl

end Progress

/-- Words are read in the same way before and after the path is filed. -/
theorem readFrom_waiting {path : String} (some_ : path ≠ "") {closed : Bool}
    (read : readFrom environment level (Progress.named path { closed := closed }) words = .ok levels) :
    readFrom environment level (Progress.waiting path closed) words = .ok levels := by
  have finishes (closed follows : Bool) :
      (Progress.waiting path closed).finish environment level follows =
        (Progress.named path { closed := closed }).finish environment level follows := by
    rw [Progress.finish, Progress.finish, Progress.settle_waiting some_]
  induction words generalizing closed levels with
  | nil =>
    rw [readFrom] at read ⊢
    rw [finishes]
    exact read
  | cons word rest ih =>
    have same : (Progress.waiting path closed).stays level word =
        (Progress.named path { closed := closed }).stays level word := rfl
    rcases readFrom_cons_eq_ok_iff.mp read with ⟨stays, next, stepped, onward⟩ | ⟨leaves, below, deeper, given,
      known, readDeeper, finished, rfl⟩
    · refine readFrom_cons_eq_ok_iff.mpr (.inl ⟨same.trans stays, ?_⟩)
      rcases Progress.step_waiting some_ closed level word with alike | ⟨rfl, dashes⟩
      · exact ⟨next, alike.trans stepped, onward⟩
      · -- Two dashes make all other words values, and the path waits on.
        have behind (progress : Progress) (before : progress.closed = false) :
            progress.step level word = .ok { progress with closed := true } := by
          rw [Progress.step, before, dashes]
          rfl
        obtain rfl : Progress.named path { closed := true } = next :=
          Except.ok.inj ((behind (Progress.named path {}) rfl).symm.trans stepped)
        exact ⟨_, behind _ rfl, ih onward⟩
    · exact readFrom_cons_eq_ok_iff.mpr (.inr ⟨same.trans leaves, below, deeper, given, known, readDeeper,
        (finishes ..).trans finished, rfl⟩)

end Command

/-- The option for a file of connections, in one word or in two; alone, a path with a dash in front would be
taken for another argument. -/
inductive ConnectionsFlag (path : String) : List String → Prop
  | attached : ConnectionsFlag path ["--connections=" ++ path]
  | apart (plain : ∀ letter rest, path.toList ≠ '-' :: letter :: rest) :
    ConnectionsFlag path ["--connections", path]

/-- What levels are given, without the file of connections. -/
def unnamed (levels : List (Level × List (Argument × String))) : List (Level × List (Argument × String)) :=
  levels.map fun (level, given) => (level, given.filter (·.1 != .connections))

/-- Words that name no file of connections where its variable is set, and others that name one where the
variable is unset, and ask for the same beside it. -/
def Flagged (environment : List (String × String)) (path : String) (words flagged : List String) : Prop :=
  ∃ levels levels', Command.readWords environment words = .ok levels ∧
    Command.readWords (Variable.without connectionsVariable environment) flagged = .ok levels' ∧
    unnamed levels' = levels ∧ (levels'.reverse.flatMap (·.2)).lookup .connections = some path

/-- Where no file is named, none is found. -/
theorem lookup_silent {given : List (Argument × String)} (silent : Command.Progress.names given = false) :
    given.lookup .connections = none :=
  Keyed.lookup_eq_none_iff_any.mpr silent

/-- Levels that name no file are the same without. -/
theorem unnamed_silent {levels : List (Level × List (Argument × String))}
    (silent : ∀ pair ∈ levels, Command.Progress.names pair.2 = false) : unnamed levels = levels := by
  refine (List.map_congr_left fun (level, given) member => ?_).trans (List.map_id levels)
  have here := silent _ member
  rw [Command.Progress.names, List.any_eq_false] at here
  simp only [id, Prod.mk.injEq, true_and]
  rw [List.filter_eq_self]
  intro pair among
  simpa using here pair among

/-- Any words that name no file can be put behind the option. -/
theorem ConnectionsFlag.flagged {environment : List (String × String)} {path : String} {flag words : List String}
    {levels : List (Level × List (Argument × String))} (flags : ConnectionsFlag path flag) (some_ : path ≠ "")
    (read : Command.readWords environment words = .ok levels)
    (silent : ∀ pair ∈ levels, Command.Progress.names pair.2 = false) :
    Flagged environment path words (flag ++ words) := by
  obtain ⟨-, given, deeper, rfl, named⟩ :=
    Command.readFrom_named path (Command.readFrom_without connectionsVariable read) silent
  have front : Command.readWords (Variable.without connectionsVariable environment) (flag ++ words) =
      .ok ((.top, (.connections, path) :: given) :: deeper) := by
    cases flags with
    | attached =>
      have letters : ("--connections=" ++ path).toList = '-' :: ("-connections=".toList ++ path.toList) := by
        rw [String.toList_append]
        rfl
      exact Command.readFrom_cons_eq_ok_iff.mpr (.inl ⟨Command.stays_dash letters _ _, _,
        Command.step_attached some_, named⟩)
    | apart plain =>
      have value : ({ pending := some (.connections, none) } : Command.Progress).step .top path =
          .ok (.waiting path false) := by
        rw [Command.Progress.step]
        split
        · contradiction
        · split
          · exact absurd ‹_› (plain _ _)
          · exact absurd ‹_› (plain _ _)
          · exact absurd ‹_› (plain _ _)
          · rfl
      refine Command.readFrom_cons_eq_ok_iff.mpr (.inl ⟨rfl, _, Command.step_alone, ?_⟩)
      exact Command.readFrom_cons_eq_ok_iff.mpr (.inl ⟨rfl, _, value, Command.readFrom_waiting some_ named⟩)
  refine ⟨_, _, read, front, ?_, ?_⟩
  · have rest := unnamed_silent silent
    rw [unnamed, List.map_cons] at rest ⊢
    exact rest
  · -- No level further in names another one.
    have deep : (deeper.reverse.flatMap (·.2)).lookup .connections = none := by
      apply lookup_silent
      rw [Command.Progress.names, List.any_flatMap, List.any_eq_false]
      intro pair member
      rw [Bool.not_eq_true]
      exact silent pair (List.mem_cons_of_mem _ (List.mem_reverse.mp member))
    rw [List.reverse_cons, List.flatMap_append, List.lookup_append, deep, Option.none_or]
    rfl

/-! ### What is asked for -/

/-- An argument has the value that the last level gives to it, or else that of its variable. -/
theorem Invocation.lookup_merged (environment : List (String × String))
    (levels : List (Level × List (Argument × String))) (argument : Argument) :
    (merged environment levels).lookup argument =
      ((levels.reverse.flatMap (·.2)).lookup argument).or
        (argument.standIn?.bind fun name => environment.lookup name) := by
  rw [merged, List.lookup_append]
  cases given : (levels.reverse.flatMap (·.2)).lookup argument with
  | some value => rfl
  | none =>
    have missing := Keyed.lookup_eq_none_iff_any.mp given
    have keyed (key : Argument) (entry : Argument × String)
        (found : Command.Progress.standIn? environment (levels.reverse.flatMap (·.2)) key = some entry) :
        entry.1 = key := by
      unfold Command.Progress.standIn? at found
      split at found
      · cases found
      · obtain ⟨name, -, found⟩ := Option.bind_eq_some_iff.mp found
        obtain ⟨value, -, rfl⟩ := Option.map_eq_some_iff.mp found
        rfl
    rw [Option.none_or, Option.none_or, Command.Progress.standIns_eq, Keyed.lookup_filterMap keyed,
      Command.Progress.standIn?, missing]
    -- Each argument that has a variable may stand everywhere.
    cases argument <;> simp [Level.everywhere, Argument.standIn?]

/-- Words behind the option ask for what they ask for with the variable set. -/
theorem Flagged.read {environment : List (String × String)} {path : String} {words flagged : List String}
    (same : Flagged environment path words flagged) (set_ : environment.lookup connectionsVariable = some path) :
    Invocation.read (Variable.without connectionsVariable environment) flagged =
        Invocation.read environment words ∧
      ∀ invocation, Invocation.read environment words = .ok invocation →
        invocation.sources.connections = some path := by
  obtain ⟨_, levels, here, there, rfl, named⟩ := same
  -- Beside the file, the levels give the same, and so do the variables that stand in.
  have kept (given : List (Argument × String)) {argument : Argument} (other : argument ≠ .connections) :
      (given.filter (·.1 != .connections)).lookup argument = given.lookup argument :=
    Keyed.lookup_filter (·.1 != .connections) (fun _ => bne_iff_ne.mpr other) given
  have all : ((unnamed levels).reverse.flatMap (·.2)) =
      (levels.reverse.flatMap (·.2)).filter (·.1 != .connections) := by
    rw [List.filter_flatMap, unnamed, ← List.map_reverse, List.flatMap_map]
  have command : Invocation.commandOf (unnamed levels) = Invocation.commandOf levels := by
    unfold Invocation.commandOf unnamed
    rw [List.getLast?_map]
    cases levels.getLast? with
    | none => rfl
    | some last =>
      refine Command.ofLevel_congr (fun argument other => kept last.2 ?_) last.1
      rintro rfl
      exact other (by decide)
  have found : (Invocation.merged environment (unnamed levels)).lookup .connections = some path := by
    have silent : ((levels.reverse.flatMap (·.2)).filter (·.1 != .connections)).lookup .connections = none := by
      rw [Keyed.lookup_eq_none_iff_any, List.any_eq_false]
      intro pair member
      simpa using (List.mem_filter.mp member).2
    rw [Invocation.lookup_merged, all, silent, Option.none_or]
    exact set_
  have merged (argument : Argument) :
      (Invocation.merged (Variable.without connectionsVariable environment) levels).lookup argument =
        (Invocation.merged environment (unnamed levels)).lookup argument := by
    by_cases same : argument = .connections
    · subst same
      rw [found, Invocation.lookup_merged, named]
      rfl
    · rw [Invocation.lookup_merged, Invocation.lookup_merged, all, kept _ same]
      congr 1
      -- The variables of other arguments are still there.
      cases named : argument.standIn? with
      | none => rfl
      | some name =>
        have other : name ≠ connectionsVariable := by
          cases argument <;> cases named <;> first | decide | contradiction
        exact Variable.lookup_without other environment
  rw [Invocation.read_levels here, Invocation.read_levels there, command]
  constructor
  · simp only [Invocation.sourcesOf, Invocation.presentationOf, Command.textOf?, Command.valueOf?, Command.isGiven,
      merged]
  · intro invocation read
    obtain ⟨command, -, read⟩ := bind_eq_ok_iff.mp read
    obtain ⟨presentation, -, read⟩ := bind_eq_ok_iff.mp read
    cases read
    exact found

end Placard
