import Placard.Placement
import Placard.Registry
import Placard.Settings.Fault
import Placard.Source.Fault

/-! Why a command fails: the wording, the advice that goes with it, and the exit code. -/

namespace Placard

/-- Why a command fails. -/
inductive Failure
  | connectionNotFound (name : String)
  | connectionExists (name : String)
  | transport (reason : String)
  | invalid (field reason : String)
  | settings (file reason : String)
  | connectionsFile (reason : String)
  | settingsExist (path : String)
  | keyring (reason : String)
  | unconfirmed (action : String)
  | io (reason : String)
  | json (reason : String)
deriving DecidableEq, Repr, Inhabited

namespace Failure

/-- The wording of a failure. -/
def message : Failure → String
  | connectionNotFound name => "Connection '" ++ name ++ "' not found"
  | connectionExists name => "Connection '" ++ name ++ "' already exists"
  | transport reason => "Could not set up the HTTP client: " ++ reason
  | invalid field reason => "Invalid value for " ++ field ++ ": " ++ reason
  | settings _ reason => "Could not load settings: " ++ reason
  | connectionsFile reason => "Could not read connections: " ++ reason
  | settingsExist path => "Settings file already exists at " ++ path
  | keyring reason => "Keyring unavailable: " ++ reason
  | unconfirmed action => "Destructive operation '" ++ action ++ "' requires confirmation"
  | io reason => reason
  | json reason => "Invalid JSON: " ++ reason

/-- The short name of a failure, which a failed file operation has not. -/
def code? : Failure → Option String
  | connectionNotFound _ => some "wallinfo::not_found"
  | connectionExists _ => some "wallinfo::conflict"
  | transport _ => some "wallinfo::transport"
  | invalid .. => some "wallinfo::validation"
  | settings .. => some "wallinfo::config"
  | connectionsFile _ => some "wallinfo::connections_file"
  | settingsExist _ => some "wallinfo::config_exists"
  | keyring _ => some "wallinfo::keyring"
  | unconfirmed _ => some "wallinfo::confirmation_required"
  | io _ => none
  | json _ => some "wallinfo::json"

/-- What may be done about a failure. -/
def help? : Failure → Option String
  | connectionNotFound _ => some "Run: wallinfo connections list to see configured connections"
  | connectionExists name =>
    some ("Use: wallinfo connections update " ++ name ++ " ... to change it")
  | transport _ =>
    some "Check [http] ca_cert in your settings, or set [http] insecure = true."
  | settings file _ =>
    some ("Settings file: " ++ file ++
      "\nCreate a fresh one with: wallinfo config init --force")
  | connectionsFile _ =>
    some "Fix or remove the file; it must be a JSON array of connection records."
  | settingsExist _ => some "Use --force to overwrite it."
  | keyring _ => some "Provide the secret through WALLINFO_SECRET_<NAME> instead."
  | unconfirmed _ => some "Use --yes (-y) to skip confirmation in non-interactive contexts."
  | invalid .. | io _ | json _ => none

/-- The exit code of the program after a failure. -/
def exitCode : Failure → Nat
  | connectionNotFound _ => 4
  | connectionExists _ | settingsExist _ => 6
  | transport _ => 7
  | invalid .. | unconfirmed _ => 2
  | _ => 1

/-- What a refused change of the registry fails with. -/
def ofRegistry : RegistryError → Failure
  | .emptyName => invalid "name" "connection name must not be empty"
  | .duplicateName name => connectionExists name
  | .notFound name => connectionNotFound name

/-- What a failed placement fails with. -/
def ofPlacement : PlacementError → Failure
  | .invalidScale width height =>
    invalid "scale" ("preview surface would be " ++ toString width ++ "x" ++ toString height ++
      "; target size and scale must be positive")

/-- What a transport that cannot be set up fails with. -/
def ofSource (error : SourceError) : Failure := transport error.message

/-- What trouble with a file fails with; the usual path stands for settings that have no file. -/
def ofStore (usualPath : String) : StoreError → Failure
  | .invalid field reason => invalid field reason
  | .unwritable => settings usualPath StoreError.unwritableReason
  | .unloadable error => settings (error.file?.getD "(environment)") error.message
  | .connections path error => connectionsFile (StoreError.connections path error).message
  | .keyring reason => keyring reason
  | .io fault => io fault.message

end Failure

end Placard
