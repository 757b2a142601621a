import Placard.Command.Line

/-! What the program is asked to do: a command with its arguments, and how its results are put out. -/

namespace Placard

/-- Where a template comes from, and the note that goes under it; settings fill the gaps. -/
structure TemplateChoice where
  text : Option String := none
  file : Option String := none
  note : Option String := none
deriving DecidableEq, Repr, Inhabited

/-- Changes of a connection; what is not given stays as it is. -/
structure ConnectionPatch where
  name : Option String := none
  url : Option String := none
  method : Option Method := none
  auth : Option Auth := none
  username : Option String := none
  secret : Option String := none
  jsonPath : Option String := none
  pattern : Option String := none
deriving DecidableEq, Repr, Inhabited

/-- What is done with connections. -/
inductive ConnectionCommand
  | list
  | view (name : String)
  | add (connection : Connection)
  | update (name : String) (patch : ConnectionPatch)
  | delete (name : String) (confirmed : Bool)
  | test (name : String)
  | setSecret (name : String)
deriving DecidableEq, Repr, Inhabited

/-- Parts of a placement that go over the settings. -/
structure PlaceChoice where
  left : Option UInt32 := none
  top : Option UInt32 := none
  width : Option UInt32 := none
  height : Option UInt32 := none
  targetWidth : Option UInt32 := none
  targetHeight : Option UInt32 := none
  scale : Option Float := none
deriving Repr, Inhabited

/-- How a template is filled again and again. -/
structure WatchChoice where
  template : TemplateChoice := {}
  interval : Option Duration := none
  /-- The file that holds the last text, instead of the output. -/
  out : Option String := none
  /-- The number of renders, which has no end where it is not given. -/
  count : Option Nat := none
deriving DecidableEq, Repr, Inhabited

/-- What is done with the settings. -/
inductive ConfigCommand
  | view
  | paths
  | init (force : Bool)
deriving DecidableEq, Repr, Inhabited

/-- A command. -/
inductive Command
  | render (template : TemplateChoice) (explain : Bool)
  | connections (command : ConnectionCommand)
  | place (choice : PlaceChoice)
  | watch (choice : WatchChoice)
  | config (command : ConfigCommand)
  | completions (shell : ShellKind)
deriving Repr, Inhabited

/-- How results are put out. -/
structure Presentation where
  format : OutputFormat := .table
  color : ColorMode := .auto
  quiet : Bool := false
deriving DecidableEq, Repr, Inhabited

/-- The files and the time limit that a command line names. -/
structure Sources where
  settings : Option String := none
  connections : Option String := none
  timeout : Option String := none
deriving DecidableEq, Repr, Inhabited

/-- A command line that was understood. -/
structure Invocation where
  command : Command
  sources : Sources := {}
  presentation : Presentation := {}
deriving Repr, Inhabited

namespace Command

/-- The value of an argument among arguments, read as what it stands for. -/
def valueOf? {α : Type} (given : List (Argument × String)) (argument : Argument)
    (read : String → Except Usage α) : Except Usage (Option α) :=
  match given.lookup argument with
  | none => .ok none
  | some value => (read value).map some

/-- The text of an argument. -/
def textOf? (given : List (Argument × String)) (argument : Argument) : Option String :=
  given.lookup argument

/-- An argument is there. -/
def isGiven (given : List (Argument × String)) (argument : Argument) : Bool :=
  (given.lookup argument).isSome

/-- The choice of a template among arguments. -/
def templateOf (given : List (Argument × String)) : TemplateChoice :=
  ⟨textOf? given .template, textOf? given .templateFile, textOf? given .note⟩

/-- The name of a connection among arguments. -/
def nameOf (given : List (Argument × String)) : Except Usage String :=
  match textOf? given .name with
  | some name => .ok name
  | none => .error .missingArgument

/-- The new connection that arguments describe. -/
def connectionOf (given : List (Argument × String)) : Except Usage Connection := do
  let made : Connection := {
    name := ← nameOf given
    url := (textOf? given .location).getD ""
    method := (← valueOf? given .method (Usage.readChoice Method.argumentWords)).getD .get
    auth := (← valueOf? given .auth (Usage.readChoice Auth.argumentWords)).getD .none
    username := (textOf? given .username).getD ""
    secret := (textOf? given .secret).getD "" }
  match textOf? given .pattern, textOf? given .jsonPath with
  | some pattern, _ => return made.withPattern pattern
  | none, some path => return made.withJsonPath path
  | none, none => return made

/-- The changes of a connection that arguments describe. -/
def patchOf (given : List (Argument × String)) : Except Usage ConnectionPatch := do
  return {
    name := textOf? given .rename
    url := textOf? given .location
    method := ← valueOf? given .method (Usage.readChoice Method.argumentWords)
    auth := ← valueOf? given .auth (Usage.readChoice Auth.argumentWords)
    username := textOf? given .username
    secret := textOf? given .secret
    jsonPath := textOf? given .jsonPath
    pattern := textOf? given .pattern }

/-- The parts of a placement that arguments give. -/
def placeOf (given : List (Argument × String)) : Except Usage PlaceChoice := do
  return {
    left := ← valueOf? given .left Usage.readLength
    top := ← valueOf? given .top Usage.readLength
    width := ← valueOf? given .width Usage.readLength
    height := ← valueOf? given .height Usage.readLength
    targetWidth := ← valueOf? given .targetWidth Usage.readLength
    targetHeight := ← valueOf? given .targetHeight Usage.readLength
    scale := ← valueOf? given .scale Usage.readFactor }

/-- The watching that arguments ask for. -/
def watchOf (given : List (Argument × String)) : Except Usage WatchChoice := do
  return {
    template := templateOf given
    interval := ← valueOf? given .interval Usage.readSpan
    out := textOf? given .out
    count := ← valueOf? given .count Usage.readCount }

/-- The command of the last level, with the arguments given there. -/
def ofLevel (given : List (Argument × String)) : Level → Except Usage Command
  | .top | .connections | .config => .error .missingCommand
  | .render => .ok (.render (templateOf given) (isGiven given .explain))
  | .connectionList => .ok (.connections .list)
  | .connectionView => (nameOf given).map fun name => .connections (.view name)
  | .connectionAdd => (connectionOf given).map fun made => .connections (.add made)
  | .connectionUpdate => do return .connections (.update (← nameOf given) (← patchOf given))
  | .connectionDelete =>
    (nameOf given).map fun name => .connections (.delete name (isGiven given .yes))
  | .connectionTest => (nameOf given).map fun name => .connections (.test name)
  | .connectionSecret => (nameOf given).map fun name => .connections (.setSecret name)
  | .place => (placeOf given).map .place
  | .watch => (watchOf given).map .watch
  | .configShow => .ok (.config .view)
  | .configPaths => .ok (.config .paths)
  | .configInit => .ok (.config (.init (isGiven given .force)))
  | .completions => do
    match ← valueOf? given .shell (Usage.readChoice ShellKind.words) with
    | some shell => return .completions shell
    | none => throw .missingArgument

end Command

namespace Invocation

/-- What the levels give together: the last one that gives an argument wins, then its variable. -/
def merged (environment : List (String × String))
    (levels : List (Level × List (Argument × String))) : List (Argument × String) :=
  let given := levels.reverse.flatMap (·.2)
  given ++ Command.Progress.standIns environment given

/-- The command line that words make, together with the variables of the surroundings. -/
def read (environment : List (String × String)) (words : List String) : Except Usage Invocation := do
  let levels ← Command.readWords environment words
  let given := merged environment levels
  let command ← match levels.getLast? with
    | some (level, own) => Command.ofLevel own level
    | none => throw .missingCommand
  return {
    command
    sources := ⟨Command.textOf? given .settings, Command.textOf? given .connections,
      Command.textOf? given .timeout⟩
    presentation := {
      format := (← Command.valueOf? given .output (Usage.readChoice OutputFormat.words)).getD .table
      color := (← Command.valueOf? given .color (Usage.readChoice ColorMode.words)).getD .auto
      quiet := Command.isGiven given .quiet } }

end Invocation

end Placard
