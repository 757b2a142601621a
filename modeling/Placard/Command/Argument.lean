import Placard.Connection
import Placard.Duration.Reading
import Placard.Text.Blank

/-! The arguments of the command line: how they are written, which values they take, and why words name no
command that can be run. -/

namespace Placard

/-- What stops the program before a command is run. -/
inductive Usage
  /-- Two arguments that exclude each other, or one argument twice. -/
  | conflict
  /-- An argument that a command cannot do without is not there. -/
  | missingArgument
  /-- A value is missing, is empty, or is none of the words allowed. -/
  | invalidValue
  /-- A value does not have the form of a number or of a span of time. -/
  | malformedValue
  /-- A value is given to an argument that takes none. -/
  | needlessValue
  | unknownArgument
  | unknownCommand
  | missingCommand
  /-- Nothing is said at all, where a command is wanted. -/
  | nothingSaid
  | help
  | version
deriving DecidableEq, Repr, Inhabited

namespace Usage

/-- Help and the version are asked for and given; all else is a mistake. -/
def exitCode : Usage → Nat
  | help => 0
  | version => 0
  | _ => 2

/-- The wording of a mistake. -/
def message : Usage → String
  | conflict => "an argument cannot be used twice or with another one"
  | missingArgument => "a required argument was not provided"
  | invalidValue => "a value is missing or is not one of the possible values"
  | malformedValue => "a value is not well formed"
  | needlessValue => "a value was given to an argument that takes none"
  | unknownArgument => "unexpected argument found"
  | unknownCommand => "unrecognized subcommand"
  | missingCommand => "a subcommand is required but none was provided"
  | nothingSaid => ""
  | help => ""
  | version => ""

end Usage

/-- The forms in which results are put out. -/
inductive OutputFormat
  | table
  | json
  | jsonCompact
  | yaml
  | plain
deriving DecidableEq, Repr, Inhabited

/-- When colors are used. -/
inductive ColorMode
  | auto
  | always
  | never
deriving DecidableEq, Repr, Inhabited

/-- The programs that can complete a command line. -/
inductive ShellKind
  | bash
  | elvish
  | fish
  | powershell
  | zsh
deriving DecidableEq, Repr, Inhabited

/-- The arguments of the command line. -/
inductive Argument
  | settings
  | connections
  | timeout
  | output
  | color
  | verbose
  | quiet
  | help
  | version
  | template
  | templateFile
  | note
  | explain
  | name
  | location
  | method
  | auth
  | username
  | secret
  | jsonPath
  | pattern
  | rename
  | yes
  | left
  | top
  | width
  | height
  | targetWidth
  | targetHeight
  | scale
  | interval
  | out
  | count
  | force
  | defaults
  | shell
deriving DecidableEq, Repr, Inhabited

/-! ### Values -/

namespace Usage

/-- Reads one of some words. -/
def readChoice {α : Type} (choices : List (String × α)) (text : String) : Except Usage α :=
  match choices.lookup text with
  | some choice => .ok choice
  | none => .error .invalidValue

/-- Reads a path, which is not empty. -/
def readPath (text : String) : Except Usage String :=
  if text == "" then .error .invalidValue else .ok text

/-- A value, or else the mistake that it is malformed. -/
def orMalformed {α : Type} : Option α → Except Usage α
  | some value => .ok value
  | none => .error .malformedValue

/-- Reads a length. -/
def readLength (text : String) : Except Usage UInt32 :=
  orMalformed ((Decimal.integer? 0 0xFFFF_FFFF text.toList).map fun value => .ofNat value.toNat)

/-- Reads a number of renders. -/
def readCount (text : String) : Except Usage Nat :=
  orMalformed (Decimal.natural? largestWord text.toList)

/-- Reads a factor. -/
def readFactor (text : String) : Except Usage Float :=
  orMalformed (Decimal.float? text.toList)

/-- Reads a span of time. -/
def readSpan (text : String) : Except Usage Duration :=
  orMalformed (Duration.ofText? text)

end Usage

/-- The words for the forms of output. -/
def OutputFormat.words : List (String × OutputFormat) :=
  [("table", table), ("json", json), ("json-compact", jsonCompact), ("yaml", yaml), ("plain", plain)]

/-- The words for the use of colors. -/
def ColorMode.words : List (String × ColorMode) :=
  [("auto", auto), ("always", always), ("never", never)]

/-- The words for the programs that can complete a command line. -/
def ShellKind.words : List (String × ShellKind) :=
  [("bash", bash), ("elvish", elvish), ("fish", fish), ("powershell", powershell), ("zsh", zsh)]

/-- The words for a verb on the command line. -/
def Method.argumentWords : List (String × Method) := [("get", get), ("post", post)]

/-- The words for a kind of authorisation on the command line. -/
def Auth.argumentWords : List (String × Auth) :=
  [("none", none), ("basic", basic), ("bearer", bearer)]

namespace Argument

/-- The long form of an argument, without its dashes; an argument known by its place has none. -/
def long? : Argument → Option String
  | settings => some "config"
  | connections => some "connections"
  | timeout => some "timeout"
  | output => some "output"
  | color => some "color"
  | verbose => some "verbose"
  | quiet => some "quiet"
  | help => some "help"
  | version => some "version"
  | template => some "template"
  | templateFile => some "template-file"
  | note => some "note"
  | explain => some "explain"
  | name => none
  | location => some "url"
  | method => some "method"
  | auth => some "auth"
  | username => some "username"
  | secret => some "secret"
  | jsonPath => some "json-path"
  | pattern => some "regex"
  | rename => some "rename"
  | yes => some "yes"
  | left => some "left"
  | top => some "top"
  | width => some "width"
  | height => some "height"
  | targetWidth => some "target-width"
  | targetHeight => some "target-height"
  | scale => some "scale"
  | interval => some "interval"
  | out => some "out"
  | count => some "count"
  | force => some "force"
  | defaults => some "defaults"
  | shell => none

/-- The letter that may stand for an argument. -/
def short? : Argument → Option Char
  | output => some 'o'
  | verbose => some 'v'
  | quiet => some 'q'
  | help => some 'h'
  | version => some 'V'
  | template => some 't'
  | templateFile => some 'f'
  | location => some 'u'
  | method => some 'm'
  | jsonPath => some 'j'
  | pattern => some 'r'
  | yes => some 'y'
  | interval => some 'i'
  | count => some 'n'
  | _ => none

/-- An argument that says all by being there. -/
def isSwitch : Argument → Bool
  | verbose | quiet | help | version | explain | yes | force | defaults => true
  | _ => false

/-- An argument that may be there more than once. -/
def mayRepeat : Argument → Bool
  | verbose => true
  | _ => false

/-- The variable that gives an argument where the command line does not. -/
def standIn? : Argument → Option String
  | settings => some "WALLINFO_CONFIG"
  | connections => some "WALLINFO_CONNECTIONS_FILE"
  | output => some "WALLINFO_OUTPUT"
  | _ => none

/-- Looks over the value of an argument. -/
def check (argument : Argument) (value : String) : Except Usage Unit :=
  match argument with
  | settings | connections | templateFile | out => discard (Usage.readPath value)
  | output => discard (Usage.readChoice OutputFormat.words value)
  | color => discard (Usage.readChoice ColorMode.words value)
  | method => discard (Usage.readChoice Method.argumentWords value)
  | auth => discard (Usage.readChoice Auth.argumentWords value)
  | shell => discard (Usage.readChoice ShellKind.words value)
  | left | top | width | height | targetWidth | targetHeight => discard (Usage.readLength value)
  | count => discard (Usage.readCount value)
  | scale => discard (Usage.readFactor value)
  | interval => discard (Usage.readSpan value)
  | _ => .ok ()

end Argument

end Placard
