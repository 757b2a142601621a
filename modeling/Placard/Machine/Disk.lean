import Placard.Machine.Path

/-! A disk: which files and directories stand where, and what reading and writing do to them. -/

namespace Placard

/-- Why an operation on a file fails. -/
inductive FileFault
  | notFound
  | alreadyExists
  | notDirectory
  | isDirectory
  | nameTooLong
  | nulInName
  | notUtf8
  | other (text : String)
deriving DecidableEq, Repr, Inhabited

/-- The wording of a failed operation on a file. -/
def FileFault.message : FileFault → String
  | notFound => "No such file or directory (os error 2)"
  | alreadyExists => "File exists (os error 17)"
  | notDirectory => "Not a directory (os error 20)"
  | isDirectory => "Is a directory (os error 21)"
  | nameTooLong => "File name too long (os error 36)"
  | nulInName => "file name contained an unexpected NUL byte"
  | notUtf8 => "stream did not contain valid UTF-8"
  | other text => text

/-- What stands at a place of the disk. -/
inductive Node
  | file (content : List UInt8)
  | directory
deriving DecidableEq, Repr, Inhabited

/-- A place is the list of names that lead to it from the root. -/
abbrev Place := List String

/-- A disk holds nodes at places, and has one place from which relative paths start. -/
structure Disk where
  nodes : List (Place × Node)
  working : Place
deriving Repr, Inhabited

namespace Disk

/-- The node at a place; the root is always a directory. -/
def at? (disk : Disk) (place : Place) : Option Node :=
  if place.isEmpty then some .directory else disk.nodes.lookup place

/-- A disk with a node put at a place, and every other place as it was. -/
def put (disk : Disk) (place : Place) (node : Node) : Disk :=
  if disk.nodes.any (·.1 == place) then
    { disk with nodes := disk.nodes.map fun entry => if entry.1 == place then (place, node) else entry }
  else { disk with nodes := disk.nodes ++ [(place, node)] }

/-- Follows names from a directory; every place but the last must be a directory already. -/
def follow (disk : Disk) (place : Place) : List String → Except FileFault Place
  | [] => .ok place
  | name :: others =>
    -- Two dots lead back up, and the root is its own parent.
    let next := if name == ".." then place.dropLast else place ++ [name]
    if others.isEmpty then .ok next
    else match disk.at? next with
      | some .directory => follow disk next others
      | some (.file _) => .error .notDirectory
      | none => .error .notFound

/-- The place that a path names, whether or not something stands there. -/
def locate (disk : Disk) (path : String) : Except FileFault Place := do
  if path.toList.contains '\x00' then throw .nulInName
  if path == "" then throw .notFound
  if 4096 ≤ path.utf8ByteSize || (Text.splitAt '/' path).any (255 < ·.utf8ByteSize) then
    throw .nameTooLong
  let place ← follow disk (if Path.isAbsolute path then [] else disk.working) (Path.names path)
  match disk.at? place with
  | some (.file _) => if Path.wantsDirectory path then throw .notDirectory else return place
  | some .directory => return place
  | none => return place

/-- What stands where a path leads. -/
def node? (disk : Disk) (path : String) : Option Node :=
  match disk.locate path with
  | .ok place => disk.at? place
  | .error _ => none

/-- The bytes of the file that a path names. -/
def read (disk : Disk) (path : String) : Except FileFault (List UInt8) := do
  match disk.at? (← disk.locate path) with
  | some (.file content) => return content
  | some .directory => throw .isDirectory
  | none => throw .notFound

/-- Puts a file where a path leads; only the file itself may be missing before. -/
def write (disk : Disk) (path : String) (content : List UInt8) : Except FileFault Disk := do
  let place ← disk.locate path
  match disk.at? place with
  | some .directory => throw .isDirectory
  | some (.file _) => return disk.put place (.file content)
  | none =>
    if Path.wantsDirectory path then throw .isDirectory
    return disk.put place (.file content)

/-- Makes one directory, in a directory that is there. -/
def makeDirectory (disk : Disk) (path : String) : Except FileFault Disk := do
  let place ← disk.locate path
  match disk.at? place with
  | some _ => throw .alreadyExists
  | none => return disk.put place .directory

/-- Makes a directory unless it is there, once its parent could be made. -/
def settle (disk : Disk) (path : String) : Except FileFault Disk :=
  match disk.makeDirectory path with
  | .ok made => .ok made
  | .error fault => if disk.node? path = some .directory then .ok disk else .error fault

/-- Makes a directory and those above it; the fuel bounds the number of steps upwards. -/
def ensure (disk : Disk) (path : String) : Nat → Except FileFault Disk
  | 0 => .error .notFound
  | fuel + 1 =>
    if path == "" then .ok disk
    else match disk.makeDirectory path with
      | .error .notFound => do
        -- The directory above is missing, so it comes first.
        match Path.parent? path with
        | some above => settle (← ensure disk above fuel) path
        | none => throw (.other "failed to create whole tree")
      | .ok made => .ok made
      | .error fault => if disk.node? path = some .directory then .ok disk else .error fault

/-- Makes a directory and every missing directory above it. -/
def makeDirectories (disk : Disk) (path : String) : Except FileFault Disk :=
  -- Every step upwards makes the path shorter.
  disk.ensure path (path.length + 1)

end Disk

end Placard
