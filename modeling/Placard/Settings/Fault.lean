import Placard.Machine.Disk
import Placard.Registry.Record
import Placard.Settings.Reading

/-! What may go wrong with the settings file, the file of connections and the store of secrets. -/

namespace Placard

/-- Why settings cannot be loaded. -/
inductive LoadError
  | unreadable (file : String) (fault : FileFault)
  | badToml (file : String) (line column : Nat)
  | badValue (problem : GivenProblem)
deriving Repr, Inhabited

namespace LoadError

/-- The wording of settings that cannot be loaded. -/
def message : LoadError → String
  | unreadable file fault => fault.message ++ "\n in " ++ file ++ " TOML file"
  | badToml _ line column =>
    "TOML parse error at line " ++ toString line ++ ", column " ++ toString column
  | badValue problem => problem.message

/-- The settings file at fault, unless it is a variable. -/
def file? : LoadError → Option String
  | unreadable file _ => some file
  | badToml file .. => some file
  | badValue problem =>
    match problem.layer with
    | .file name => some name
    | _ => none

end LoadError

/-- What may go wrong with the files of the program. -/
inductive StoreError
  | invalid (field reason : String)
  | unwritable
  | unloadable (error : LoadError)
  | connections (path : String) (error : Registry.DataError)
  | keyring (reason : String)
  | io (fault : FileFault)
deriving Repr, Inhabited

namespace StoreError

/-- Why a number cannot be written. -/
def unwritableReason : String := "out-of-range value for u64 type"

/-- The wording of what went wrong. -/
def message : StoreError → String
  | invalid field reason => "invalid " ++ field ++ ": " ++ reason
  | unwritable => "failed to serialize config: " ++ unwritableReason
  | unloadable error => "config loading failed: " ++ error.message
  | connections path error => "invalid connections file " ++ path ++ ": " ++ error.message
  | keyring reason => "keyring error: " ++ reason
  | io fault => "IO error: " ++ fault.message

end StoreError

end Placard
