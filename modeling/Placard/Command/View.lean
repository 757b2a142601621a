import Placard.Command.Invocation
import Placard.Json.Writer
import Placard.Machine.Basic
import Placard.Yaml.Writer

/-! Results as the program puts them out: in one of several formats, in color or not, or not at all. -/

namespace Placard

/-- A result in the forms in which it may be put out. -/
structure View where
  json : Json
  /-- The form for the eye. -/
  table : String
  /-- The bare value that a script wants. -/
  plain : String
deriving Repr, Inhabited

/-- A result in one of the formats. -/
def View.text (view : View) : OutputFormat → String
  | .table => view.table
  | .json => view.json.pretty
  | .jsonCompact => view.json.compact
  | .yaml => Yaml.ofJson view.json
  | .plain => view.plain

namespace Presentation

/-- Colors are used only on demand, for the output is never a terminal here. -/
def isColored (presentation : Presentation) : Bool :=
  presentation.color == .always

/-- A word of praise or blame, green or red. -/
def statusWord (presentation : Presentation) (word : String) (good : Bool) : String :=
  if presentation.isColored then
    (if good then "\x1b[32m" else "\x1b[31m") ++ word ++ "\x1b[39m"
  else word

/-- A text that stays in the background. -/
def dim (presentation : Presentation) (text : String) : String :=
  if presentation.isColored then "\x1b[2m" ++ text ++ "\x1b[0m" else text

variable {m : Type → Type} [Monad m] [Machine m]

/-- Puts a text on a line of the output, unless all is to be quiet or there is nothing to put. -/
def put (presentation : Presentation) (text : String) : m Unit :=
  if presentation.quiet || text == "" then return () else Machine.say (text ++ "\n")

/-- Puts a result on the output. -/
def putView (presentation : Presentation) (view : View) : m Unit :=
  presentation.put (view.text presentation.format)

/-- Puts a remark beside the output, unless all is to be quiet. -/
def remark (presentation : Presentation) (text : String) : m Unit :=
  if presentation.quiet then return () else Machine.tell (text ++ "\n")

end Presentation

end Placard
