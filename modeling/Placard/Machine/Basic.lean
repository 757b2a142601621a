import Placard.Duration
import Placard.Machine.Disk
import Placard.Text.Utf8

/-! What a program asks of the machine it runs on, and a machine that is a value. -/

namespace Placard

/-- What stands at a path. -/
inductive NodeKind
  | file
  | directory
deriving DecidableEq, Repr, Inhabited

/-- The kind of a node. -/
def Node.kind : Node → NodeKind
  | .file _ => .file
  | .directory => .directory

/-- The actions of a program on files, variables, the clock and its two outputs. -/
class Machine (m : Type → Type) where
  /-- The directory from which relative paths start. -/
  working : m String
  /-- What stands at a path. -/
  kind? : String → m (Option NodeKind)
  /-- The bytes of a file. -/
  read : String → m (Except FileFault (List UInt8))
  /-- Replaces the bytes of a file, which may be new. -/
  write : String → List UInt8 → m (Except FileFault Unit)
  /-- Makes a directory and those above it. -/
  makeDirectories : String → m (Except FileFault Unit)
  /-- The variables of the surroundings. -/
  environment : m (List (String × String))
  /-- The time since the epoch. -/
  now : m Duration
  /-- Lets time pass. -/
  pause : Duration → m Unit
  /-- Puts a text on the output. -/
  say : String → m Unit
  /-- Puts a text beside the output. -/
  tell : String → m Unit

namespace Machine

variable {m : Type → Type} [Monad m] [Machine m]

/-- A path leads to a file. -/
def isFile (path : String) : m Bool := do
  return (← kind? path) == some .file

/-- A path leads to something. -/
def isThere (path : String) : m Bool := do
  return (← kind? path).isSome

/-- The value of a variable. -/
def valueOf? (name : String) : m (Option String) := do
  return (← environment).lookup name

/-- The text of a file, all of which must be characters. -/
def readText (path : String) : m (Except FileFault String) := do
  match ← read path with
  | .error fault => return .error fault
  | .ok content =>
    match Text.decode? content with
    | some text => return .ok (.ofList text)
    | none => return .error .notUtf8

/-- Replaces the text of a file. -/
def writeText (path text : String) : m (Except FileFault Unit) :=
  write path (Text.bytes text.toList)

end Machine

/-- A machine as a value: its disk, its variables, its clock and what was put out on it. -/
structure World where
  disk : Disk
  environment : List (String × String)
  clock : Duration
  said : String
  told : String
deriving Repr, Inhabited

namespace World

/-- Applies a change of the disk, unless it fails. -/
def changeDisk (change : Disk → Except FileFault Disk) : StateM World (Except FileFault Unit) :=
  fun world =>
    match change world.disk with
    | .ok disk => (.ok (), { world with disk := disk })
    | .error fault => (.error fault, world)

end World

instance : Machine (StateM World) where
  working := do return Path.ofNames (← get).disk.working
  kind? path := do return ((← get).disk.node? path).map Node.kind
  read path := do return (← get).disk.read path
  write path content := World.changeDisk (·.write path content)
  makeDirectories path := World.changeDisk (·.makeDirectories path)
  environment := do return (← get).environment
  now := do return (← get).clock
  pause span := modify fun world =>
    { world with clock := ⟨world.clock.nanoseconds + span.nanoseconds⟩ }
  say text := modify fun world => { world with said := world.said ++ text }
  tell text := modify fun world => { world with told := world.told ++ text }

/-- A machine stays one when something else is kept beside it. -/
instance {σ : Type} {m : Type → Type} [Monad m] [Machine m] : Machine (StateT σ m) where
  working := StateT.lift Machine.working
  kind? path := StateT.lift (Machine.kind? path)
  read path := StateT.lift (Machine.read path)
  write path content := StateT.lift (Machine.write path content)
  makeDirectories path := StateT.lift (Machine.makeDirectories path)
  environment := StateT.lift Machine.environment
  now := StateT.lift Machine.now
  pause span := StateT.lift (Machine.pause span)
  say text := StateT.lift (Machine.say text)
  tell text := StateT.lift (Machine.tell text)

/-- A machine stays one when an action may fail. -/
instance {ε : Type} {m : Type → Type} [Monad m] [Machine m] : Machine (ExceptT ε m) where
  working := ExceptT.lift Machine.working
  kind? path := ExceptT.lift (Machine.kind? path)
  read path := ExceptT.lift (Machine.read path)
  write path content := ExceptT.lift (Machine.write path content)
  makeDirectories path := ExceptT.lift (Machine.makeDirectories path)
  environment := ExceptT.lift Machine.environment
  now := ExceptT.lift Machine.now
  pause span := ExceptT.lift (Machine.pause span)
  say text := ExceptT.lift (Machine.say text)
  tell text := ExceptT.lift (Machine.tell text)

end Placard
