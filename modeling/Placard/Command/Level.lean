import Placard.Command.Argument

/-! The commands as a tree: the names of each, and the arguments that it takes. -/

namespace Placard

/-- The places of the command line where arguments may stand: before any command, and after each. -/
inductive Level
  | top
  | render
  | connections
  | connectionList
  | connectionView
  | connectionAdd
  | connectionUpdate
  | connectionDelete
  | connectionTest
  | connectionSecret
  | place
  | watch
  | config
  | configShow
  | configPaths
  | configInit
  | completions
deriving DecidableEq, Repr, Inhabited

namespace Level

/-- The names of the commands that may follow at a level. -/
def commands : Level → List (String × Level)
  | top => [("render", render), ("r", render), ("connections", connections),
      ("conn", connections), ("c", connections), ("place", place), ("watch", watch),
      ("config", config), ("completions", completions)]
  | connections => [("list", connectionList), ("ls", connectionList), ("show", connectionView),
      ("add", connectionAdd), ("update", connectionUpdate), ("delete", connectionDelete),
      ("rm", connectionDelete), ("test", connectionTest), ("set-secret", connectionSecret)]
  | config => [("show", configShow), ("path", configPaths), ("init", configInit)]
  | _ => []

/-- A command has to follow at a level. -/
def wantsCommand (level : Level) : Bool := !level.commands.isEmpty

/-- The arguments that may stand at every level. -/
def everywhere : List Argument :=
  [.settings, .connections, .timeout, .output, .color, .verbose, .quiet, .help, .version]

/-- The arguments of a level that are written with dashes, but those that may stand everywhere. -/
def own : Level → List Argument
  | render => [.template, .templateFile, .note, .explain]
  | connectionAdd => [.location, .method, .auth, .username, .secret, .jsonPath, .pattern]
  | connectionUpdate =>
    [.rename, .location, .method, .auth, .username, .secret, .jsonPath, .pattern]
  | connectionDelete => [.yes]
  | place => [.left, .top, .width, .height, .targetWidth, .targetHeight, .scale]
  | watch => [.template, .templateFile, .note, .interval, .out, .count]
  | configInit => [.force, .defaults]
  | _ => []

/-- The argument of a level that is known by its place. -/
def placed? : Level → Option Argument
  | connectionView | connectionAdd | connectionUpdate | connectionDelete => some .name
  | connectionTest | connectionSecret => some .name
  | completions => some .shell
  | _ => none

/-- The arguments that a level cannot do without. -/
def required (level : Level) : List Argument :=
  level.placed?.toList ++ if level == connectionAdd then [.location] else []

/-- The arguments of a level of which at most one may be given. -/
def rivals : Level → List Argument
  | render | watch => [.template, .templateFile]
  | connectionAdd | connectionUpdate => [.jsonPath, .pattern]
  | _ => []

/-- The arguments of a level that are written with dashes. -/
def arguments (level : Level) : List Argument := everywhere ++ level.own

/-- The argument of a level with a long form. -/
def longArgument? (level : Level) (form : String) : Option Argument :=
  level.arguments.find? (·.long? == some form)

/-- The argument of a level with a letter. -/
def shortArgument? (level : Level) (letter : Char) : Option Argument :=
  level.arguments.find? (·.short? == some letter)

end Level

end Placard
