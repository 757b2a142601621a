import Placard.Resolution
import Placard.Shell.Run

/-! Reading the text of a source within a span of time. -/

namespace Placard

namespace WebRequest

/-- What becomes of a request: one that is in order finds nobody who answers.

The address is looked at first, then its scheme, then the credentials. -/
def send (request : WebRequest) (budget : Duration) : Except SourceError String := do
  let url ← (Web.Url.parse request.url).mapError .invalidUrl
  if url.scheme != "http" && url.scheme != "https" then throw (.unsupportedScheme url.scheme)
  discard (request.credentials.header.mapError .invalidCredentials)
  if budget.nanoseconds == 0 then throw (.timedOut budget)
  throw (.noAnswer url.text)

end WebRequest

namespace Source

variable {m : Type → Type} [Monad m] [Machine m]

/-- The text of a file, without a byte-order mark in front. -/
def fetchFile (path : String) (budget : Duration) : m (Except SourceError String) := do
  if budget.nanoseconds == 0 then return .error (.timedOut budget)
  match ← Machine.read path with
  | .ok content => return .ok (.ofList (Text.decodeLossy (Text.withoutMark content)))
  | .error fault => return .error (.unreadable path fault)

/-- The output of a command, whatever status it ends with. -/
def fetchCommand (line : String) (budget : Duration) : m (Except SourceError String) := do
  if line.toList.contains '\x00' then
    return .error (.notRun line (.other "nul byte found in provided data"))
  match ← Shell.outputOf line budget with
  | some output => return .ok (.ofList (Text.decodeLossy output))
  | none => return .error (.timedOut budget)

/-- Reads the text of a source. -/
def fetch : Fetch m
  | .file path, budget => fetchFile path budget
  | .command line, budget => fetchCommand line budget
  | .http request, budget => return request.send budget

end Source

end Placard
