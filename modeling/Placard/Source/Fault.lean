import Placard.Duration
import Placard.Machine.Disk
import Placard.Web.Url

/-! Why a source gives no text. -/

namespace Placard

/-- Why a source gives no text. -/
inductive SourceError
  | timedOut (budget : Duration)
  | unreadable (path : String) (fault : FileFault)
  | notRun (command : String) (fault : FileFault)
  | noAnswer (url : String)
  | invalidUrl (fault : Web.UrlFault)
  | unsupportedScheme (scheme : String)
  | invalidCredentials (reason : String)
  | tls (reason : String)
deriving DecidableEq, Repr, Inhabited

namespace SourceError

/-- The wording of a failed source. -/
def message : SourceError → String
  | timedOut budget => "Source timed out after " ++ budget.text
  | unreadable path fault => "Failed to read " ++ path ++ ": " ++ fault.message
  | notRun command fault => "Failed to run command `" ++ command ++ "`: " ++ fault.message
  | noAnswer url => "HTTP transport error: error sending request for url (" ++ url ++ ")"
  | invalidUrl fault => "Invalid URL: " ++ fault.message
  | unsupportedScheme scheme => "Unsupported URL scheme '" ++ scheme ++ "'"
  | invalidCredentials reason => "Invalid credentials: " ++ reason
  | tls reason => "TLS error: " ++ reason

/-- The source took longer than it was given. -/
def isTimeout : SourceError → Bool
  | timedOut _ => true
  | _ => false

end SourceError

end Placard
