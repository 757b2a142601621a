import Placard.Machine.Basic
import Placard.Settings.Fault
import Placard.Settings.Variable
import Placard.Settings.Writing
import Placard.Toml.Reader

/-! The files of the program: settings in layers, and connections. -/

namespace Placard

variable {m : Type → Type} [Monad m] [Machine m]

/-- Makes the directory of a file. -/
def makeParent (path : String) : m (Except FileFault Unit) :=
  match Path.parent? path with
  | some directory => Machine.makeDirectories directory
  | none => return .ok ()

namespace Settings

/-- The settings that a settings file and variables make together.

Variables go over the file, and the file goes over what holds when nothing is given. -/
def ofLayers (file environment : Given) : Except GivenProblem Settings :=
  ((usual.toGiven.overlaid file).overlaid environment).toSettings

/-- The first of several paths that leads to a file. -/
def firstFile? : List String → m (Option String)
  | [] => return none
  | path :: others => do
    if ← Machine.isFile path then return some path else firstFile? others

/-- The values of a settings file, which is looked for in the working directory and above it.

Where there is no file, nothing is given. -/
def readFile (path : String) : m (Except LoadError Given) := do
  let working ← Machine.working
  match ← firstFile? (Path.upward working path) with
  | none => return .ok (.table .usual [])
  | some found =>
    let name := Path.seenFrom working found
    match ← Machine.readText found with
    | .error fault => return .error (.unreadable name fault)
    | .ok text =>
      match Toml.parse text with
      | .ok whole => return .ok (.ofToml (.file name) whole)
      | .error (line, column) => return .error (.badToml name line column)

/-- The settings of a file and of the variables around it. -/
def load (path : String) : m (Except StoreError Settings) := do
  match ← readFile path with
  | .error error => return .error (.unloadable error)
  | .ok file =>
    let environment := Variable.layer (← Machine.environment)
    return (ofLayers file environment).mapError fun problem => .unloadable (.badValue problem)

/-- Writes settings to a file, whose directory is made where it is missing. -/
def save (settings : Settings) (path : String) : m (Except StoreError Unit) := do
  match ← makeParent path with
  | .error fault => return .error (.io fault)
  | .ok _ =>
    match settings.write? with
    | none => return .error .unwritable
    | some text => return (← Machine.writeText path text).mapError .io

end Settings

namespace Registry

/-- The registry in a file; where the file is missing or blank, the registry is empty. -/
def load (path : String) : m (Except StoreError Registry) := do
  match ← Machine.readText path with
  | .error .notFound => return .ok empty
  | .error fault => return .error (.io fault)
  | .ok text =>
    if Text.allBlank text then return .ok empty
    else return (parse text).mapError (.connections path)

/-- Writes a registry to a file, whose directory is made where it is missing. -/
def save (registry : Registry) (path : String) : m (Except StoreError Unit) := do
  match ← makeParent path with
  | .error fault => return .error (.io fault)
  | .ok _ => return (← Machine.writeText path registry.write).mapError .io

end Registry

end Placard
