import Placard.Connection

/-! Connections filed under their names, in the order in which they were added. -/

namespace Placard

/-- Connections in order, each filed under a name. -/
structure Registry where
  entries : List (String × Connection)
deriving DecidableEq, Repr, Inhabited

/-- Why a registry refuses a change. -/
inductive RegistryError
  | emptyName
  | duplicateName (name : String)
  | notFound (name : String)
deriving DecidableEq, Repr, Inhabited

/-- The wording of a refused change. -/
def RegistryError.message : RegistryError → String
  | emptyName => "Connection name must not be empty"
  | duplicateName name => "Connection '" ++ name ++ "' already exists"
  | notFound name => "Connection '" ++ name ++ "' not found"

namespace Registry

/-- The registry without connections. -/
def empty : Registry := ⟨[]⟩

/-- The connections in order. -/
def toList (registry : Registry) : List Connection :=
  registry.entries.map (·.2)

/-- The names in order. -/
def names (registry : Registry) : List String :=
  registry.entries.map (·.1)

/-- The number of connections. -/
def size (registry : Registry) : Nat :=
  registry.entries.length

/-- The connection filed under a name. -/
def get? (registry : Registry) (name : String) : Option Connection :=
  registry.entries.lookup name

/-- Some connection is filed under a name. -/
def holds (registry : Registry) (name : String) : Bool :=
  (registry.get? name).isSome

/-- Puts an entry in the place of the one filed under a name. -/
def replaceEntry (name : String) (entry : String × Connection) :
    List (String × Connection) → List (String × Connection)
  | [] => []
  | held :: others =>
    if held.1 = name then entry :: others else held :: replaceEntry name entry others

/-- Takes out the entry filed under a name. -/
def removeEntry (name : String) : List (String × Connection) → List (String × Connection)
  | [] => []
  | held :: others => if held.1 = name then others else held :: removeEntry name others

/-- Files a connection under its name, in place of the one filed there or behind all others. -/
def put (registry : Registry) (connection : Connection) : Registry :=
  let entry := (connection.name, connection)
  if registry.holds connection.name then ⟨replaceEntry connection.name entry registry.entries⟩
  else ⟨registry.entries ++ [entry]⟩

/-- The registry of a list; connections without a name are left out, and the last of a name stays. -/
def ofList (connections : List Connection) : Registry :=
  connections.foldl
    (fun registry connection =>
      if Text.allBlank connection.name then registry else registry.put connection)
    empty

/-- A name that a registry accepts has a character that is not blank. -/
def checkName (name : String) : Except RegistryError Unit :=
  if Text.allBlank name then .error .emptyName else .ok ()

/-- Adds a connection behind all others. -/
def add (registry : Registry) (connection : Connection) : Except RegistryError Registry := do
  checkName connection.name
  if registry.holds connection.name then throw (.duplicateName connection.name)
  return ⟨registry.entries ++ [(connection.name, connection)]⟩

/-- Puts a connection in the place of the one filed under a name, which it may rename. -/
def update (registry : Registry) (name : String) (connection : Connection) :
    Except RegistryError Registry := do
  checkName connection.name
  if !registry.holds name then throw (.notFound name)
  if connection.name != name && registry.holds connection.name then
    throw (.duplicateName connection.name)
  return ⟨replaceEntry name (connection.name, connection) registry.entries⟩

/-- Takes out the connection filed under a name. -/
def remove (registry : Registry) (name : String) :
    Except RegistryError (Connection × Registry) :=
  match registry.get? name with
  | none => .error (.notFound name)
  | some removed => .ok (removed, ⟨removeEntry name registry.entries⟩)

/-- Changes connections where they stand; the names under which they are filed stay. -/
def mapConnections (change : Connection → Connection) (registry : Registry) : Registry :=
  ⟨registry.entries.map fun (name, connection) => (name, change connection)⟩

/-- Registries that file the same connections under the same names, in whatever order. -/
def sameEntries (left right : Registry) : Bool :=
  left.size == right.size &&
    left.entries.all fun (name, connection) => right.get? name == some connection

end Registry

end Placard
