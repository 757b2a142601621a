import Placard.Registry

/-! Secrets that come from outside: the variable that holds one, and the filling in of missing ones. -/

namespace Placard

/-- What the names of variables with secrets begin with. -/
def secretPrefix : String := "WALLINFO_SECRET_"

/-- The variable that holds the secret of a connection: capital letters, digits and lines only. -/
def secretVariable (name : String) : String :=
  secretPrefix ++ .ofList (name.toList.map fun c => if c.isAlphanum then c.toUpper else '_')

namespace Connection

/-- A connection with the secret that a look-up finds for it, where one is missing. -/
def filled (lookup : String → Option String) (connection : Connection) : Connection :=
  if connection.needsSecret then
    match lookup connection.name with
    | some secret => { connection with secret := secret }
    | none => connection
  else connection

/-- A connection lacks a secret that a look-up finds. -/
def canFill (lookup : String → Option String) (connection : Connection) : Bool :=
  connection.needsSecret && (lookup connection.name).isSome

end Connection

namespace Registry

/-- Fills in missing secrets, and tells for how many connections one was found. -/
def fill (lookup : String → Option String) (registry : Registry) : Registry × Nat :=
  (registry.mapConnections (·.filled lookup), (registry.toList.filter (·.canFill lookup)).length)

end Registry

end Placard
