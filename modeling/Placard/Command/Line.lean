import Placard.Command.Level

/-! Reading the words of a command line, level by level, into arguments with their values. -/

namespace Placard.Command

/-- How far the words of one level are read. -/
structure Progress where
  /-- The arguments that are settled, with their values; that of a switch is empty. -/
  given : List (Argument × String) := []
  /-- The last argument, whose value may still be to come, and is looked over later. -/
  pending : Option (Argument × Option String) := none
  /-- Two dashes have been met, after which no word is an argument by its form. -/
  closed : Bool := false
  /-- The argument that is known by its place has been met. -/
  filled : Bool := false
deriving Repr, Inhabited

namespace Progress

/-- The argument whose value is the next word, whatever its form. -/
def awaited? (progress : Progress) : Option Argument :=
  match progress.pending with
  | some (argument, none) => if progress.closed then none else some argument
  | _ => none

/-- Files an argument with its value, which is looked over; most arguments are filed once only. -/
def file (progress : Progress) (argument : Argument) (value : String) : Except Usage Progress := do
  if !argument.mayRepeat && progress.given.any (·.1 == argument) then throw .conflict
  argument.check value
  return { progress with given := progress.given ++ [(argument, value)] }

/-- Files the last argument, which must have its value by now. -/
def settle (progress : Progress) : Except Usage Progress :=
  match progress.pending with
  | none => .ok progress
  | some (_, none) => .error .invalidValue
  | some (argument, some value) => { progress with pending := none }.file argument value

/-- Takes an argument whose value stands in the same word, or is to come with the next one. -/
def take (progress : Progress) (argument : Argument) (attached : Option String) :
    Except Usage Progress := do
  let settled ← progress.settle
  match attached with
  | some value => settled.file argument value
  | none => return { settled with pending := some (argument, none) }

/-- Takes a switch; two of them end the reading with an answer. -/
def turn (progress : Progress) (switch : Argument) : Except Usage Progress := do
  let settled ← progress.settle
  match switch with
  | .help => throw .help
  | .version => throw .version
  | other => settled.file other ""

/-- Takes the letters after one dash: switches, and at most one argument with what follows it. -/
def takeLetters (level : Level) (progress : Progress) : List Char → Except Usage Progress
  | [] => .ok progress
  | letter :: rest =>
    match level.shortArgument? letter with
    | none => .error .unknownArgument
    | some argument =>
      if argument.isSwitch then progress.turn argument >>= (takeLetters level · rest)
      else match rest with
        | [] => progress.take argument none
        | '=' :: value => progress.take argument (some (.ofList value))
        | value => progress.take argument (some (.ofList value))

/-- Takes the form after two dashes, with the value after an equals sign. -/
def takeForm (level : Level) (progress : Progress) (word : List Char) : Except Usage Progress :=
  let form := word.takeWhile (· != '=')
  let attached := match word.drop form.length with
    | '=' :: value => some (String.ofList value)
    | _ => none
  match level.longArgument? (.ofList form), attached with
  | none, _ => .error .unknownArgument
  | some argument, attached =>
    if argument.isSwitch then
      if attached.isSome then .error .needlessValue else progress.turn argument
    else progress.take argument attached

/-- The mistake of a word that has no place at a level. -/
def stray (level : Level) (progress : Progress) (word : String) : Usage :=
  if !level.wantsCommand then .unknownArgument
  -- A command behind two dashes is taken for an argument that does not belong there.
  else if progress.closed && (word == "help" || (level.commands.lookup word).isSome) then
    .unknownArgument
  else .unknownCommand

/-- Takes a word that is a value: of the last argument, or of the one known by its place. -/
def takeValue (level : Level) (progress : Progress) (word : String) : Except Usage Progress :=
  match progress.awaited?, level.placed? with
  | some argument, _ => .ok { progress with pending := some (argument, some word) }
  | none, none => .error (progress.stray level word)
  | none, some placed =>
    if progress.filled then .error .unknownArgument
    else progress.settle.map fun settled =>
      { settled with pending := some (placed, some word), filled := true }

/-- Takes a word that is no command. -/
def step (level : Level) (progress : Progress) (word : String) : Except Usage Progress :=
  if progress.closed then progress.takeValue level word
  else match word.toList with
    | ['-', '-'] => .ok { progress with closed := true }
    | '-' :: '-' :: form => progress.takeForm level form
    | '-' :: letter :: letters => progress.takeLetters level (letter :: letters)
    | _ => progress.takeValue level word

/-- The arguments that variables give where the words of a level do not. -/
def standIns (environment : List (String × String)) (given : List (Argument × String)) :
    List (Argument × String) :=
  Level.everywhere.filterMap fun argument => do
    if given.any (·.1 == argument) then none
    let name ← argument.standIn?
    return (argument, ← environment.lookup name)

/-- Ends the reading of a level, at a command or at the last word. -/
def finish (environment : List (String × String)) (level : Level) (commandFollows : Bool)
    (progress : Progress) : Except Usage (List (Argument × String)) := do
  let given := (← progress.settle).given
  let others := standIns environment given
  others.forM fun (argument, value) => argument.check value
  if level.wantsCommand && !commandFollows then
    throw (if given.isEmpty && others.isEmpty then .nothingSaid else .missingCommand)
  let has (argument : Argument) := given.any (·.1 == argument)
  if !level.rivals.isEmpty && level.rivals.all has then throw .conflict
  if !level.required.all has then throw .missingArgument
  return given

end Progress

/-- The answer to a question for help on a command. -/
def helpOn (level : Level) : List String → Usage
  | [] => .help
  | word :: rest =>
    match level.commands.lookup word with
    | some below => helpOn below rest
    -- The question itself may be asked about, where commands may stand.
    | none => if level.wantsCommand && word == "help" && rest.isEmpty then .help else .unknownCommand

/-- Reads the words from a level on; gives the levels that were passed, with their arguments. -/
def readFrom (environment : List (String × String)) (level : Level) (progress : Progress) :
    List String → Except Usage (List (Level × List (Argument × String)))
  | [] => do return [(level, ← progress.finish environment level false)]
  | word :: rest =>
    -- The value of an argument may look like a command, and so may a word behind two dashes.
    if progress.closed || progress.awaited?.isSome then
      progress.step level word >>= (readFrom environment level · rest)
    else if level.wantsCommand && word == "help" then .error (helpOn level rest)
    else match level.commands.lookup word with
      | none => progress.step level word >>= (readFrom environment level · rest)
      | some below => do
        let deeper ← readFrom environment below {} rest
        return (level, ← progress.finish environment level true) :: deeper

/-- Reads all words of a command line. -/
def readWords (environment : List (String × String)) (words : List String) :
    Except Usage (List (Level × List (Argument × String))) :=
  readFrom environment .top {} words

end Placard.Command
