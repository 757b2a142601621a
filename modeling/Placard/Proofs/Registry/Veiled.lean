import Placard.Command.Connections
import Placard.Proofs.Registry.Filed
import Placard.Proofs.Registry.Sound

/-! Connections without their secrets: what is shown of one is shown of every other with the same rest. -/

namespace Placard

/-- A connection with nothing of its secret but whether there is one. -/
def Connection.veiled (connection : Connection) : Connection :=
  { connection with secret := if connection.secret == "" then "" else "****" }

/-- A registry with nothing of its secrets but whether they are there. -/
def Registry.veiled (registry : Registry) : Registry := registry.mapConnections Connection.veiled

namespace Connection

/-- A veiled secret is there exactly where there is one. -/
theorem veiled_secret_eq_empty (connection : Connection) :
    (connection.veiled.secret == "") = (connection.secret == "") := by
  unfold veiled
  cases empty : connection.secret == "" with
  | true => rfl
  | false => rfl

/-- A connection in full shows of its secret only whether there is one. -/
theorem describe_veiled (connection : Connection) : connection.veiled.describe = connection.describe := by
  unfold describe
  rw [veiled_secret_eq_empty]
  rfl

/-- Credentials are shown without the secret. -/
theorem describe_credentials_veiled (connection : Connection) :
    connection.veiled.credentials.describe = connection.credentials.describe := by
  rw [credentials, credentials]
  unfold veiled
  cases connection.auth <;> rfl

/-- A summary holds of the secret only whether there is one. -/
theorem summary_veiled (connection : Connection) (kind : SourceKind) :
    connection.veiled.summary kind = connection.summary kind := by
  have secret : (connection.veiled.secret != "") = (connection.secret != "") := by
    rw [bne, bne, veiled_secret_eq_empty]
  rw [summary, secret]
  rfl

/-- The kind of source that a connection has on a disk. -/
def kindOn (connection : Connection) (disk : Disk) : SourceKind :=
  (Source.ofLocation ((disk.node? connection.url).map Node.kind == some .file) connection.url
    connection.method connection.credentials).kind

/-- Whatever the credentials, a location names the same kind of source. -/
theorem kind_ofLocation (isFile : Bool) (location : String) (method : Method)
    (credentials credentials' : Credentials) :
    (Source.ofLocation isFile location method credentials').kind =
      (Source.ofLocation isFile location method credentials).kind := by
  -- A file comes first, then a command, then the web; credentials are only carried along.
  unfold Source.ofLocation
  split
  · rfl
  · cases Source.command? location with
    | none => rfl
    | some line => rfl

/-- What is told of a connection on a disk. -/
def summaryOn (disk : Disk) (connection : Connection) : ConnectionSummary :=
  connection.summary (connection.kindOn disk)

/-- What is told of a connection has nothing to do with the secret, but that there is one. -/
theorem summaryOn_veiled (disk : Disk) (connection : Connection) :
    connection.veiled.summaryOn disk = connection.summaryOn disk := by
  have kind : connection.veiled.kindOn disk = connection.kindOn disk := kind_ofLocation ..
  rw [summaryOn, summaryOn, summary_veiled, kind]

end Connection

/-! ### Registries -/

namespace Registry

variable {change : Connection → Connection}

/-- Changed connections stand in their order. -/
theorem toList_mapConnections (registry : Registry) :
    (registry.mapConnections change).toList = registry.toList.map change := by
  simp [mapConnections, toList, Function.comp_def]

/-- A changed connection is found under the same name. -/
theorem get?_mapConnections (registry : Registry) (name : String) :
    (registry.mapConnections change).get? name = (registry.get? name).map change := by
  obtain ⟨entries⟩ := registry
  simp only [get?, mapConnections]
  induction entries with
  | nil => rfl
  | cons entry others ih =>
    obtain ⟨key, held⟩ := entry
    rw [List.map_cons, List.lookup_cons, List.lookup_cons]
    cases name == key with
    | true => rfl
    | false => exact ih

/-- A change that leaves names alone may come before an entry is put in the place of another, or after. -/
theorem map_replaceEntry (name : String) (entry : String × Connection) (entries : List (String × Connection)) :
    (replaceEntry name entry entries).map (fun held => (held.1, change held.2)) =
      replaceEntry name (entry.1, change entry.2) (entries.map fun held => (held.1, change held.2)) := by
  induction entries with
  | nil => rfl
  | cons held others ih =>
    simp only [replaceEntry, List.map_cons]
    split
    · rfl
    · rw [List.map_cons, ih]

/-- A change that leaves names alone may come before a connection is filed, or after. -/
theorem put_mapConnections (kept : ∀ connection, (change connection).name = connection.name)
    (registry : Registry) (connection : Connection) :
    (registry.mapConnections change).put (change connection) =
      (registry.put connection).mapConnections change := by
  -- A name is taken before the change where it is taken after it.
  have held : (registry.mapConnections change).holds connection.name = registry.holds connection.name := by
    rw [holds, holds, get?_mapConnections, Option.isSome_map]
  rw [put, put, kept, held]
  split
  · simp only [mapConnections, map_replaceEntry]
  · simp [mapConnections]

/-- A change that leaves names alone may come before connections are filed, or after. -/
theorem ofList_map (kept : ∀ connection, (change connection).name = connection.name)
    (connections : List Connection) :
    ofList (connections.map change) = (ofList connections).mapConnections change := by
  -- The connections are filed one after another, in a registry that may hold others already.
  have general (registry : Registry) :
      (connections.map change).foldl (fun registry connection =>
        if Text.allBlank connection.name then registry else registry.put connection)
        (registry.mapConnections change) =
      (connections.foldl (fun registry connection =>
        if Text.allBlank connection.name then registry else registry.put connection)
        registry).mapConnections change := by
    induction connections generalizing registry with
    | nil => rfl
    | cons connection others ih =>
      rw [List.map_cons, List.foldl_cons, List.foldl_cons, ← ih, kept]
      split
      · rfl
      · rw [put_mapConnections kept]
  exact general empty

/-- Registries that are the same once veiled hold the same connections, but for what their secrets are. -/
theorem toList_veiled {registry registry' : Registry} (same : registry'.veiled = registry.veiled) :
    registry'.toList.map Connection.veiled = registry.toList.map Connection.veiled := by
  rw [← toList_mapConnections, ← toList_mapConnections]
  exact congrArg toList same

end Registry

/-! ### Files -/

/-- Two files of connections can both be read, and are the same but for what the secrets in them are. -/
def SameButSecrets (content content' : List UInt8) : Prop :=
  ∃ text text' records records', content = Text.bytes text.toList ∧ content' = Text.bytes text'.toList ∧
    Connection.parseAll text = .ok records ∧ Connection.parseAll text' = .ok records' ∧
    records'.map Connection.veiled = records.map Connection.veiled

/-- Where another kind of value was wanted, nothing is read. -/
theorem Json.mismatch_fails {α : Type} (wanted : String) (text : List Char) :
    ∃ fault, (mismatch wanted text : Except Fault α) = .error fault := by
  -- What stands there is read for the complaint, and may be broken itself.
  unfold mismatch
  split
  all_goals first
    | exact ⟨_, rfl⟩
    | exact bind_fails _ fun _ => ⟨_, rfl⟩
    | skip
  -- What is left begins with a digit, or with nothing that can be read.
  split
  · exact bind_fails _ fun _ => ⟨_, rfl⟩
  · exact ⟨_, rfl⟩

/-- A text in which connections are read is not blank. -/
theorem Connection.allBlank_of_parseAll {text : String} {records : List Connection}
    (read : parseAll text = .ok records) : Text.allBlank text = false := by
  obtain ⟨found, begins, -⟩ := bind_eq_ok_iff.mp read
  split at begins
  next rest bracket =>
    -- The opening bracket is no blank.
    have member : '[' ∈ text.toList := by
      have kept : '[' ∈ Json.skipSpace text.toList := bracket ▸ List.mem_cons_self
      exact (List.dropWhile_suffix Json.isSpace).subset kept
    rw [Text.allBlank, List.all_eq_false]
    exact ⟨'[', member, by decide⟩
  next =>
    obtain ⟨fault, fails⟩ : ∃ fault, (Json.mismatch "a sequence" (Json.skipSpace text.toList) :
        Except Json.Fault (List Connection × List Char)) = .error fault := Json.mismatch_fails ..
    rw [fails] at begins
    cases begins

/-- What is loaded from a file is made of the connections that are read in it. -/
theorem Registry.loaded_of_parseAll {disk : Disk} {path text : String} {records : List Connection}
    (bytes : disk.read path = .ok (Text.bytes text.toList))
    (read : Connection.parseAll text = .ok records) : loaded disk path = .ok (ofList records) := by
  rw [loaded, bytes]
  simp [Text.decode?_bytes, Connection.allBlank_of_parseAll read, parse, read]

/-- From files that are the same but for what the secrets in them are, registries are loaded that are the
same once veiled. -/
theorem SameButSecrets.loaded {content content' : List UInt8} (same : SameButSecrets content content')
    {disk disk' : Disk} {path : String} (here : disk.read path = .ok content)
    (there : disk'.read path = .ok content') :
    ∃ registry registry', Registry.loaded disk path = .ok registry ∧
      Registry.loaded disk' path = .ok registry' ∧ registry'.veiled = registry.veiled := by
  -- Veiling may come after the records are filed, or before, where they are the same.
  obtain ⟨text, text', records, records', rfl, rfl, read, read', veiled⟩ := same
  refine ⟨_, _, Registry.loaded_of_parseAll here read, Registry.loaded_of_parseAll there read', ?_⟩
  have named (connection : Connection) : connection.veiled.name = connection.name := rfl
  rw [Registry.veiled, Registry.veiled, ← Registry.ofList_map named, ← Registry.ofList_map named, veiled]

end Placard
