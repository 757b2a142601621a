import Placard.Proofs.Command.Shown
import Placard.Proofs.Source.Header

/-! Stored secrets are not put out: connections are listed and shown alike, whatever their secrets are. -/

namespace Placard

/-- Two machines are the same but for what the secrets in one file of connections are. -/
structure SameButStored (place : Place) (world world' : World) : Prop where
  disk : world.disk.Alike (· ≠ place) world'.disk
  environment : world'.environment = world.environment
  files : ∃ content content', world.disk.at? place = some (.file content) ∧
    world'.disk.at? place = some (.file content') ∧ SameButSecrets content content'

variable {world world' : World} {place : Place} {context context' : Context}

/-- The connections are loaded alike, but for what their secrets are. -/
theorem SameButStored.registry (same : SameButStored place world world')
    (contexts : context.Alike context') :
    LookAlike SameVeiled context.registry context'.registry world world' := by
  refine ⟨_, _, ?_, Context.outcome_registry .., Context.outcome_registry ..⟩
  rw [contexts.connectionsPath, contexts.storeFailure]
  obtain ⟨content, content', here, there, secrets⟩ := same.files
  by_cases leads : world.disk.locate context.connectionsPath = .ok place
  · -- The path leads to the file in which the secrets differ.
    have leads' : world'.disk.locate context.connectionsPath = .ok place :=
      (same.disk.locate _).trans leads
    obtain ⟨registry, registry', loads, loads', veiled⟩ :=
      secrets.loaded (Disk.read_of_at? leads here) (Disk.read_of_at? leads' there)
    rw [loads, loads']
    exact .ok veiled
  · have elsewhere : ∀ other, world.disk.locate context.connectionsPath = .ok other → other ≠ place :=
      fun other located equal => leads (equal ▸ located)
    rw [Registry.loaded_alike same.disk elsewhere]
    cases Registry.loaded world.disk context.connectionsPath with
    | error error => exact .error _
    | ok registry => exact .ok rfl

/-! ### Header lines -/

/-- Credentials that have no header line are a token, and it is not told which. -/
theorem Credentials.header_error {credentials : Credentials} {problem : String}
    (failed : credentials.header = .error problem) : problem = "Bearer header: failed to parse header value" := by
  cases credentials with
  | none => cases failed
  | basic username password =>
    -- A user name and a password are written with characters that all may stand there.
    rw [header_basic] at failed
    cases failed
  | bearer token =>
    rw [header_bearer] at failed
    split at failed
    · cases failed
    · exact (Except.error.inj failed).symm

/-! ### The program -/

/-- A command shows connections: all of them, or the one of a name. -/
def Command.ShowsConnections (command : Command) : Prop :=
  command = .connections .list ∨ ∃ name, command = .connections (.view name)

/-- A stored secret is not put out. Whatever is in the secrets of a file of connections that can be read,
listing and showing put out the same, in every format, and end with the same exit code; descriptions of
connections and credentials are the same too, and so are the complaints about header lines. -/
theorem secrets_not_shown :
    (∀ (connect : Connect (StateM World)) (place : Place) (world world' : World) (words : List String)
        (invocation : Invocation),
      SameButStored place world world' →
      Invocation.read world.environment words = .ok invocation → invocation.command.ShowsConnections →
      SettingsSeen (· ≠ place) world.disk (invocation.sources.settingsPath world.environment) →
      AnswerAlike world world' ((runProgram connect words).run world)
        ((runProgram connect words).run world')) ∧
    (∀ connection connection' : Connection, connection'.veiled = connection.veiled →
      connection'.describe = connection.describe ∧
      connection'.credentials.describe = connection.credentials.describe) ∧
    ∀ (credentials credentials' : Credentials) (problem problem' : String),
      credentials.header = .error problem → credentials'.header = .error problem' → problem' = problem := by
  refine ⟨?_, ?_, ?_⟩
  · intro connect place world world' words invocation same read shows apart
    have open_ : Variable.SameOpen world.environment world'.environment := by
      rw [same.environment, Variable.SameOpen]
    have together := Together.refl same.disk open_
    -- Both commands load the settings and then the connections, and go alike from there.
    refine (together.program connect fun found again => ?_).1
    obtain rfl : found = invocation := Except.ok.inj (again.symm.trans read)
    rw [Invocation.run]
    rcases shows with shown | ⟨name, shown⟩
    · rw [shown]
      refine (Context.Alike.load same.disk open_ apart).bind together ?_
      rintro context context' ⟨contexts, -⟩
      exact .list same.disk (same.registry contexts) together _
    · rw [shown]
      refine (Context.Alike.load same.disk open_ apart).bind together ?_
      rintro context context' ⟨contexts, -⟩
      exact .view same.disk (same.registry contexts) together _ name
  · intro connection connection' same
    constructor
    · rw [← connection'.describe_veiled, same, connection.describe_veiled]
    · rw [← connection'.describe_credentials_veiled, same, connection.describe_credentials_veiled]
  · intro credentials credentials' problem problem' failed failed'
    rw [Credentials.header_error failed, Credentials.header_error failed']

/-! ### Two machines with a token -/

/-- A file of one connection with a token; the method may be one that there is not. -/
def tokenFile (method token : String) : String :=
  "[\x7b\"Name\":\"a\",\"AuthType\":\"Bearer\",\"PasswordOrToken\":\"" ++ token ++ "\",\"Method\":\"" ++
    method ++ "\"\x7d]"

/-- A machine with such a file and nothing else. -/
def tokenWorld (method token : String) : World :=
  ⟨⟨[(["list"], .file (Text.bytes (tokenFile method token).toList))], []⟩, [], ⟨0⟩, "", ""⟩

/-- A fetcher that no source answers in time. -/
def lateFetch : Fetch (StateM World) := fun _ budget => return .error (.timedOut budget)

/-- A command line that lists the connections of that file. -/
def tokenWords : List String := ["--config", "/config.toml", "--connections", "list", "connections", "list"]

/-- Listing the connections of that file on such a machine. -/
def tokenList (method token : String) : Nat × World :=
  (runProgram (Transport.connect lateFetch) tokenWords).run (tokenWorld method token)

/-- Two such machines are the same but for what the tokens are, where the files can be read. -/
theorem tokenWorld_same {token token' : String}
    (same : SameButSecrets (Text.bytes (tokenFile "GET" token).toList)
      (Text.bytes (tokenFile "GET" token').toList)) :
    SameButStored ["list"] (tokenWorld "GET" token) (tokenWorld "GET" token') := by
  have elsewhere (token : String) (other : Place) (apart : other ≠ ["list"]) :
      (tokenWorld "GET" token).disk.at? other = if other.isEmpty then some .directory else none := by
    have missed : (other == ["list"]) = false := beq_eq_false_iff_ne.mpr apart
    simp [Disk.at?, tokenWorld, List.lookup_cons, missed]
  have filed (token : String) : (tokenWorld "GET" token).disk.at? ["list"] =
      some (.file (Text.bytes (tokenFile "GET" token).toList)) := rfl
  -- Both machines have one file at one place, and nothing anywhere else but the root.
  refine ⟨⟨rfl, fun other => ?_, fun other apart => ?_⟩, rfl, _, _, filed _, filed _, same⟩
  · by_cases apart : other = ["list"]
    · rw [apart, filed, filed, Option.map_some, Option.map_some, Node.kind, Node.kind]
    · rw [elsewhere _ _ apart, elsewhere _ _ apart]
  · rw [elsewhere _ _ apart, elsewhere _ _ apart]

/-- Two tokens are not shown, nor is how long they are. -/
theorem secrets_not_shown_tokens :
    SameButStored ["list"] (tokenWorld "GET" "k") (tokenWorld "GET" "kk") ∧
      AnswerAlike (tokenWorld "GET" "k") (tokenWorld "GET" "kk") (tokenList "GET" "k") (tokenList "GET" "kk") ∧
      Credentials.header (.bearer "\n") = .error "Bearer header: failed to parse header value" := by
  have read : Connection.parseAll (tokenFile "GET" "k") =
      .ok [{ name := "a", auth := .bearer, secret := "k" }] := by rfl
  have read' : Connection.parseAll (tokenFile "GET" "kk") =
      .ok [{ name := "a", auth := .bearer, secret := "kk" }] := by rfl
  have same : SameButStored ["list"] (tokenWorld "GET" "k") (tokenWorld "GET" "kk") :=
    tokenWorld_same ⟨_, _, _, _, rfl, rfl, read, read', by decide⟩
  have listed : Invocation.read (tokenWorld "GET" "k").environment tokenWords =
      .ok ⟨.connections .list, { settings := some "/config.toml", connections := some "list" }, {}⟩ := by rfl
  have missing : (tokenWorld "GET" "k").disk.settingsFile? "/config.toml" = none := by rfl
  have first : Credentials.header (.bearer "\n") = .error "Bearer header: failed to parse header value" := by rfl
  refine ⟨same, secrets_not_shown.1 (Transport.connect lateFetch) ["list"] _ _ _ _ same listed (.inl rfl) ?_,
    first⟩
  -- No settings file is there, so none can be the one with the secrets.
  intro found place settings
  cases missing.symm.trans settings

/-- Where a file cannot be read, the complaint tells at which column the reading stopped, and so how long a
secret is. -/
theorem secrets_not_shown_unreadable :
    ¬AnswerAlike (tokenWorld "PUT" "k") (tokenWorld "PUT" "kk") (tokenList "PUT" "k") (tokenList "PUT" "kk") := by
  intro alike
  obtain ⟨text, here, there⟩ := alike.told
  have same : (tokenList "PUT" "k").2.told = (tokenList "PUT" "kk").2.told := here.trans there.symm
  have differ : (tokenList "PUT" "k").2.told ≠ (tokenList "PUT" "kk").2.told := by decide +kernel
  exact differ same

end Placard
