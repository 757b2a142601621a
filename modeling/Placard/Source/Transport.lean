import Placard.Resolution
import Placard.Source.Certificate

/-! How web requests are sent: whom they trust, and how they name themselves. -/

namespace Placard

/-- Whose certificates a request trusts. -/
inductive Trust
  | system
  | authority (path : String)
  | anyone
deriving DecidableEq, Repr, Inhabited

/-- The way in which web requests are sent. -/
structure Transport where
  trust : Trust
  userAgent : String
deriving DecidableEq, Repr, Inhabited

/-- A way to set up the fetching of sources for a transport. -/
abbrev Connect (m : Type → Type) := Transport → m (Except SourceError (Fetch m))

namespace Transport

variable {m : Type → Type} [Monad m] [Machine m]

/-- The failure of a transport that does not fit its parts together. -/
private def unbuilt : SourceError := .tls "failed to build HTTP client: builder error"

/-- Looks over a transport: its authority must be readable, and its name must fit a header line. -/
def check (transport : Transport) : m (Except SourceError Unit) := do
  let trusted ← match transport.trust with
    | .authority path => do
      match ← Machine.read path with
      | .error fault => pure (Except.error (.tls ("failed to read CA cert: " ++ fault.message)))
      | .ok content => pure (if Certificate.usable content then .ok () else .error unbuilt)
    | _ => pure (.ok ())
  return do
    trusted
    if transport.userAgent.toList.all Credentials.fitsHeader then .ok () else .error unbuilt

/-- Sets up a way of fetching on a transport that is in order. -/
def connect (fetch : Fetch m) : Connect m := fun transport => do
  return (← transport.check).map fun _ => fetch

end Transport

end Placard
