import Placard.Extraction
import Placard.Source
import Placard.Source.Fault

/-! What becomes of one connection: its source is read, and its value is taken out of the body. -/

namespace Placard

/-- What became of a connection. -/
inductive Resolution
  | value (text : String)
  | fetchFailed (error : SourceError)
  | jsonFailed (body : String) (fault : Json.Fault)
  | patternFailed (error : PatternError)
  | noMatch
deriving Repr, Inhabited

namespace Resolution

/-- The text that stands for a connection in the end. -/
def text : Resolution → String
  | value text => text
  | fetchFailed _ => "(error)"
  | jsonFailed .. => "(json path error)"
  | patternFailed _ => "(regex error)"
  | noMatch => "(no match)"

/-- What became of a connection, in a word or two. -/
def status : Resolution → String
  | value _ => "ok"
  | fetchFailed error => if error.isTimeout then "timeout" else "fetch error"
  | jsonFailed .. => "parse error"
  | patternFailed _ => "parse error"
  | noMatch => "no match"

/-- Why a connection gave no value, where there is more to tell. -/
def detail? : Resolution → Option String
  | value _ => none
  | fetchFailed error => some error.message
  | jsonFailed body fault => some (ExtractionError.badJson body fault).message
  | patternFailed error => some (ExtractionError.badPattern error).message
  | noMatch => none

/-- What the extraction of a value makes of a connection. -/
def ofExtraction : Except ExtractionError String → Resolution
  | .ok text => value text
  | .error (.badJson body fault) => jsonFailed body fault
  | .error (.badPattern error) => patternFailed error
  | .error .noMatch => noMatch

end Resolution

/-- A way to get the text of a source within a span of time. -/
abbrev Fetch (m : Type → Type) := Source → Duration → m (Except SourceError String)

/-- One connection looked at by itself, with the body that its source gave. -/
structure Inspection where
  kind : SourceKind
  body : Option String
  resolution : Resolution
deriving Repr, Inhabited

namespace Connection

variable {m : Type → Type} [Monad m] [Machine m]

/-- Reads the source of a connection and takes the value out of the body. -/
def inspect (fetch : Fetch m) (budget : Duration) (connection : Connection) : m Inspection := do
  let source ← connection.source
  match ← fetch source budget with
  | .error error => return ⟨source.kind, none, .fetchFailed error⟩
  | .ok body =>
    let extracted := extract body connection.grammar connection.selector
    return ⟨source.kind, some body, .ofExtraction extracted⟩

/-- What becomes of a connection. -/
def resolve (fetch : Fetch m) (budget : Duration) (connection : Connection) : m Resolution := do
  return (← connection.inspect fetch budget).resolution

end Connection

end Placard
