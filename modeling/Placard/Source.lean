import Placard.Machine.Basic
import Placard.Source.Credentials

/-! Sources of text: files, commands and web addresses, and which of them a location names. -/

namespace Placard

/-- A web address with the verb and the credentials of the request. -/
structure WebRequest where
  url : String
  method : Method
  credentials : Credentials
deriving DecidableEq, Repr, Inhabited

/-- A source of text. -/
inductive Source
  | file (path : String)
  | command (line : String)
  | http (request : WebRequest)
deriving DecidableEq, Repr, Inhabited

/-- The kinds of sources. -/
inductive SourceKind
  | file
  | command
  | http
deriving DecidableEq, Repr, Inhabited

/-- The word for a kind of source. -/
def SourceKind.word : SourceKind → String
  | file => "file"
  | command => "command"
  | http => "http"

namespace Source

/-- What a location begins with when the rest of it is a command, in letters of either case. -/
def commandMark : String := "cmd://"

/-- The command that a location names. -/
def command? (location : String) : Option String :=
  let letters := location.toList
  let size := commandMark.length
  if Text.sameIgnoringCase (letters.take size) commandMark.toList then
    some (.ofList (letters.drop size))
  else none

/-- The source that a location names: a file that is there, else a command, else a web address. -/
def ofLocation (isFile : Bool) (location : String) (method : Method) (credentials : Credentials) :
    Source :=
  if location != "" && isFile then file location
  else match command? location with
    | some line => command line
    | none => http ⟨location, method, credentials⟩

/-- The kind of a source. -/
def kind : Source → SourceKind
  | file _ => .file
  | command _ => .command
  | http _ => .http

/-- The path, the command or the address of a source. -/
def target : Source → String
  | file path => path
  | command line => line
  | http request => request.url

/-- Looks at the disk for the source that a location names. -/
def detect {m : Type → Type} [Monad m] [Machine m] (location : String) (method : Method)
    (credentials : Credentials) : m Source := do
  return ofLocation (← Machine.isFile location) location method credentials

end Source

/-- Looks at the disk for the source of a connection. -/
def Connection.source {m : Type → Type} [Monad m] [Machine m] (connection : Connection) : m Source :=
  Source.detect connection.url connection.method connection.credentials

end Placard
