import Placard.Proofs.Command.Spared
import Placard.Source.Fetch

/-! Secrets of the surroundings are not kept: files, settings and what is put out do not depend on them. -/

namespace Placard

open Variable (SameOpen)

/-- The exit code and the machine that a command line leaves. -/
def runLine (fetch : Fetch (StateM World)) (words : List String) (world : World) : Nat × World :=
  (runProgram (Transport.connect fetch) words).run world

/-- A command line that is run on two machines, as one of many on each. -/
structure Abreast where
  words : List String
  here : World
  there : World

namespace Abreast

/-- The exit code and the machine that a command line leaves on the first machine. -/
def ranHere (fetch : Fetch (StateM World)) (pair : Abreast) : Nat × World :=
  runLine fetch pair.words pair.here

/-- The exit code and the machine that a command line leaves on the second machine. -/
def ranThere (fetch : Fetch (StateM World)) (pair : Abreast) : Nat × World :=
  runLine fetch pair.words pair.there

/-- Command lines that are run one after another, on two machines. -/
def course (fetch : Fetch (StateM World)) : List (List String) → World → World → List Abreast
  | [], _, _ => []
  | words :: others, here, there =>
    let pair : Abreast := ⟨words, here, there⟩
    pair :: course fetch others (pair.ranHere fetch).2 (pair.ranThere fetch).2

end Abreast

/-- On a machine, a command line asks only sources that spare what is kept, and puts its output elsewhere. -/
structure Careful (fetch : Fetch (StateM World)) (kept : Place → Prop) (words : List String) (world : World) :
    Prop where
  harmless : ∀ invocation context, Invocation.read world.environment words = .ok invocation →
    invocation.command.asks = true → Looks (Context.load invocation.sources) world context →
    context.Harmless fetch kept world
  apart : ∀ invocation choice, Invocation.read world.environment words = .ok invocation →
    invocation.command = .watch choice →
    ∀ path ∈ choice.out, ∀ place, Path.Names world.disk.working path place → ¬kept place

namespace Abreast

/-- A command line reads its settings and connections where things are kept, and is careful on both machines;
if it asks sources, it leaves files and directories at the same places on both. -/
structure Fair (fetch : Fetch (StateM World)) (kept : Place → Prop) (pair : Abreast) : Prop where
  within : ∀ invocation, Invocation.read pair.here.environment pair.words = .ok invocation →
    invocation.sources.Within kept pair.here
  here : Careful fetch kept pair.words pair.here
  there : Careful fetch kept pair.words pair.there
  shape : ∀ invocation, Invocation.read pair.here.environment pair.words = .ok invocation →
    invocation.command.asks = true → ∀ place,
    ((pair.ranThere fetch).2.disk.at? place).map Node.kind = ((pair.ranHere fetch).2.disk.at? place).map Node.kind

/-- Of what is secret on two machines, a command line keeps nothing, and shows nothing unless it asks sources. -/
structure Discreet (fetch : Fetch (StateM World)) (kept : Place → Prop) (pair : Abreast) : Prop where
  /-- What is kept is byte for byte the same after it. -/
  files : ∀ place, kept place →
    (pair.ranThere fetch).2.disk.at? place = (pair.ranHere fetch).2.disk.at? place
  /-- The settings that it works on are the same. -/
  settings : ∀ invocation, Invocation.read pair.here.environment pair.words = .ok invocation →
    Settings.loaded pair.there (invocation.sources.settingsPath pair.there.environment) =
      Settings.loaded pair.here (invocation.sources.settingsPath pair.here.environment)
  /-- It ends in the same way and puts out the same, if it asks no source. -/
  answer : (∀ invocation, Invocation.read pair.here.environment pair.words = .ok invocation →
      invocation.command.asks = false) →
    AnswerAlike pair.here pair.there (pair.ranHere fetch) (pair.ranThere fetch)

variable {fetch : Fetch (StateM World)} {kept : Place → Prop} {pair : Abreast}

end Abreast

variable {fetch : Fetch (StateM World)} {kept : Place → Prop} {words : List String} {world world' : World}

/-- What the program tells in the end is not kept. -/
theorem World.Spared.closed {start : World} (spared : World.Spared kept start world) (ending : Ending) :
    World.Spared kept start (ending.closed world) :=
  ⟨spared.environment, spared.working, spared.nodes⟩

/-- A careful command line that asks sources spares what is kept. -/
theorem Careful.spares (careful : Careful fetch kept words world) {invocation : Invocation}
    (read : Invocation.read world.environment words = .ok invocation) (asks : invocation.command.asks = true) :
    World.Spared kept world (runLine fetch words world).2 := by
  -- What the program does beyond its command is to put texts out.
  rw [runLine, runProgram_run, runWords_run, read]
  refine World.Spared.closed (invocation.spares asks ?_ ?_) _
  · exact fun context => careful.harmless invocation context read asks
  · exact fun choice => careful.apart invocation choice read

namespace Abreast

variable {pair : Abreast}

/-- A fair command line is discreet, and leaves machines that differ in secrets only, with what is kept the same. -/
theorem Fair.discreet (fair : pair.Fair fetch kept) (shape : pair.here.disk.Alike kept pair.there.disk)
    (same : SameOpen pair.here.environment pair.there.environment) :
    pair.Discreet fetch kept ∧ (pair.ranHere fetch).2.disk.Alike kept (pair.ranThere fetch).2.disk ∧
      SameOpen (pair.ranHere fetch).2.environment (pair.ranThere fetch).2.environment := by
  have settings (invocation : Invocation)
      (read : Invocation.read pair.here.environment pair.words = .ok invocation) :
      Settings.loaded pair.there (invocation.sources.settingsPath pair.there.environment) =
        Settings.loaded pair.here (invocation.sources.settingsPath pair.here.environment) := by
    rw [same.settingsPath]
    exact Settings.loaded_alike shape same (fair.within invocation read).settings
  by_cases quiet : ∀ invocation, Invocation.read pair.here.environment pair.words = .ok invocation →
      invocation.command.asks = false
  · -- Without sources, both machines go the same way.
    have together := Together.refl shape same
    obtain ⟨answer, left⟩ := together.program (Transport.connect fetch) fun invocation read =>
      invocation.goes_alike _ together (fair.within invocation read) (quiet invocation read)
    exact ⟨⟨left.disk.nodes, settings, fun _ => answer⟩, left.disk, left.environment⟩
  · -- With sources, each machine goes its own way, and spares what is kept.
    push Not at quiet
    obtain ⟨invocation, read, asks⟩ := quiet
    have asks : invocation.command.asks = true := by simpa using asks
    have again : Invocation.read pair.there.environment pair.words = .ok invocation :=
      (Invocation.read_congr same pair.words).trans read
    have here := fair.here.spares read asks
    have there := fair.there.spares again asks
    have files (place : Place) (isKept : kept place) :
        (pair.ranThere fetch).2.disk.at? place = (pair.ranHere fetch).2.disk.at? place :=
      (there.nodes place isKept).trans ((shape.nodes place isKept).trans (here.nodes place isKept).symm)
    have left : (pair.ranHere fetch).2.disk.Alike kept (pair.ranThere fetch).2.disk :=
      ⟨there.working.trans (shape.working.trans here.working.symm), fair.shape invocation read asks, files⟩
    refine ⟨⟨files, settings, fun quiet => ?_⟩, left, ?_⟩
    · rw [quiet invocation read] at asks
      cases asks
    · rw [SameOpen, ranThere, there.environment, ranHere, here.environment]
      exact same

end Abreast

/-- Secrets of the surroundings are not kept. Command lines are run one after another on two machines whose
variables differ in secrets only. Sources and output files spare what is kept, and the files of the command
lines are kept; those that ask sources leave files and directories at the same places. Then after each command
line what is kept is byte for byte the same, each works on the same settings, and each that asks no source ends
in the same way and puts out the same. -/
theorem secrets_not_kept (fetch : Fetch (StateM World)) (kept : Place → Prop) (lines : List (List String))
    (world world' : World) (shape : world.disk.Alike kept world'.disk)
    (same : SameOpen world.environment world'.environment)
    (fair : ∀ pair ∈ Abreast.course fetch lines world world', pair.Fair fetch kept) :
    ∀ pair ∈ Abreast.course fetch lines world world', pair.Discreet fetch kept := by
  induction lines generalizing world world' with
  | nil => exact fun pair member => absurd member List.not_mem_nil
  | cons words others ih =>
    -- One command line leaves machines that are alike again, so the others start as the first one did.
    obtain ⟨discreet, shape, same⟩ := (fair _ List.mem_cons_self).discreet shape same
    intro pair member
    rcases List.mem_cons.mp member with rfl | later
    · exact discreet
    · exact ih _ _ shape same (fun pair member => fair pair (List.mem_cons_of_mem _ member)) pair later

/-! ### Sources that change nothing -/

/-- Reading a file, or asking the web, leaves the machine as it was. -/
theorem Source.fetch_still {source : Source} (noCommand : ∀ line, source ≠ .command line) (budget : Duration)
    (world : World) : ((Source.fetch source budget : StateM World _).run world).2 = world := by
  cases source with
  | command line => exact absurd rfl (noCommand line)
  | http request => rfl
  | file path =>
    have read : (Machine.read path : StateM World (Except FileFault (List UInt8))).run world =
        (world.disk.read path, world) := rfl
    rw [Source.fetch, Source.fetchFile]
    split
    · rfl
    · rw [StateT.run_bind, read, id_bind_eq]
      cases world.disk.read path <;> rfl

/-- A connection whose location is no command can be asked without harm to anything. -/
theorem Connection.inspect_still {connection : Connection} (noCommand : Source.command? connection.url = none)
    (holds : World → Prop) (budget : Duration) :
    Preserves holds (fun _ => True) (connection.inspect (Source.fetch : Fetch (StateM World)) budget) := by
  intro world held
  -- Asking is looking for the source, which changes nothing, and fetching it.
  rw [inspect_run]
  have named : ((connection.source : StateM World Source).run world).1 =
      .ofLocation ((world.disk.node? connection.url).map Node.kind == some .file) connection.url
        connection.method connection.credentials := rfl
  rw [Source.fetch_still]
  · exact ⟨trivial, held⟩
  · -- The location is a file or the address of a web request.
    intro line
    rw [named, Source.ofLocation, noCommand]
    split <;> simp

/-! ### Two machines with a variable and without -/

/-- A file of one connection that lacks its token. -/
def tokenless : Connection := { name := "a", url := "http://h", auth := .bearer }

/-- A machine with a file of that connection and nothing else. -/
def tokenlessWorld (environment : List (String × String)) : World :=
  ⟨⟨[(["list"], .file (Text.bytes (Registry.ofList [tokenless]).write.toList))], []⟩, environment, ⟨0⟩, "", ""⟩

/-- A command line on that file. -/
def tokenlessWords (others : List String) : List String :=
  ["--config", "/config.toml", "--connections", "list"] ++ others

/-- The places of the two files that such a command line names. -/
def tokenlessFiles (place : Place) : Prop := place = ["list"] ∨ place = ["config.toml"]

/-- A machine on which nothing stands but that file, and a program starts at the root. -/
structure Tokenless (world : World) : Prop where
  working : world.disk.working = []
  nodes : ∀ place, world.disk.at? place = (tokenlessWorld []).disk.at? place

namespace Tokenless

variable {world : World}

/-- Such a machine is like one with the same nodes. -/
theorem alike (bare : Tokenless world) (seen : Place → Prop) : (tokenlessWorld []).disk.Alike seen world.disk :=
  ⟨bare.working, fun place => by rw [bare.nodes], fun place _ => bare.nodes place⟩

/-- A command line on the file reads it and nothing else. -/
theorem within (bare : Tokenless world) {sources : Sources} (settings : sources.settings = some "/config.toml")
    (connections : sources.connections = some "list") : sources.Within tokenlessFiles world := by
  -- There are no settings, and the one file that is read is that of the connections.
  have missing : (tokenlessWorld []).disk.settingsFile? "/config.toml" = none := rfl
  have leads : (tokenlessWorld []).disk.locate "list" = .ok ["list"] := rfl
  constructor
  · intro found place there
    rw [Sources.settingsPath, settings, Option.getD_some, (bare.alike tokenlessFiles).settingsFile?, missing] at there
    cases there
  · intro _ place _ located
    rw [Sources.connectionsPath, connections, Option.getD_some, (bare.alike tokenlessFiles).locate, leads] at located
    cases located
    exact .inl rfl

/-- Whenever the file is read, its connection can be asked without harm to anything. -/
theorem harmless (bare : Tokenless world) {kept : Place → Prop} (file : kept ["list"]) {context : Context}
    (path : context.connectionsPath = "list") : context.Harmless Source.fetch kept world := by
  intro other registry spared loads connection member
  -- The path still leads to the file, whatever else has come to stand on the disk.
  have located : other.disk.locate "list" = .ok ["list"] := by
    have leads : (tokenlessWorld []).disk.locate "list" = .ok ["list"] := rfl
    obtain ⟨accepted, follows, -⟩ := Disk.locate_eq_ok_iff.mp leads
    refine Disk.locate_eq_ok_iff.mpr ⟨accepted, ?_, fun _ => rfl⟩
    have start : other.disk.start "list" = [] := spared.working.trans bare.working
    rw [start]
    rfl
  have stands : other.disk.at? ["list"] = some (.file (Text.bytes (Registry.ofList [tokenless]).write.toList)) :=
    (spared.nodes _ file).trans ((bare.nodes _).trans rfl)
  rw [path, (Registry.ofList_sound _).loaded_written (Disk.read_of_at? located stands)] at loads
  cases loads
  have filled : (context.withSecrets (Registry.ofList [tokenless])).toList =
      [tokenless.filled (secretAmong context.environment)] := rfl
  rw [filled, List.mem_singleton] at member
  -- With its token or without, the connection has the same location.
  have location (lookup : String → Option String) : (tokenless.filled lookup).url = "http://h" := by
    unfold Connection.filled
    split
    · split <;> rfl
    · rfl
  refine Connection.inspect_still ?_ _ _
  rw [member, location]
  rfl

/-- A command line on the file that does not watch is careful. -/
theorem careful (bare : Tokenless world) {kept : Place → Prop} (file : kept ["list"]) {words : List String}
    {invocation : Invocation} (read : Invocation.read world.environment words = .ok invocation)
    (connections : invocation.sources.connections = some "list")
    (noWatch : ∀ choice, invocation.command ≠ .watch choice) : Careful Source.fetch kept words world := by
  constructor
  · intro found context again _ looks
    obtain rfl : found = invocation := Except.ok.inj (again.symm.trans read)
    obtain ⟨settings, -, rfl⟩ := Context.looks_load_iff.mp looks
    refine bare.harmless file ?_
    rw [Sources.context, Sources.connectionsPath, connections]
    rfl
  · intro found choice again watches
    obtain rfl : found = invocation := Except.ok.inj (again.symm.trans read)
    exact absurd watches (noWatch choice)

/-- A command line on the file that asks its source leaves such a machine bare, with the variables it had. -/
theorem ran (bare : Tokenless world) {words : List String} {invocation : Invocation}
    (read : Invocation.read world.environment words = .ok invocation)
    (connections : invocation.sources.connections = some "list")
    (noWatch : ∀ choice, invocation.command ≠ .watch choice) (asks : invocation.command.asks = true) :
    Tokenless (runLine Source.fetch words world).2 ∧
      (runLine Source.fetch words world).2.environment = world.environment := by
  -- Its source spares everything, not only what is to be kept.
  have careful : Careful Source.fetch (fun _ => True) words world :=
    bare.careful trivial read connections noWatch
  have spared := careful.spares read asks
  exact ⟨⟨spared.working.trans bare.working, fun place => (spared.nodes place trivial).trans (bare.nodes place)⟩,
    spared.environment⟩

/-- A command line on the file that does not watch is fair on two such machines. -/
theorem fair {here there : World} (bare : Tokenless here) (bare' : Tokenless there)
    (same : SameOpen here.environment there.environment) {words : List String} {invocation : Invocation}
    (read : Invocation.read here.environment words = .ok invocation)
    (settings : invocation.sources.settings = some "/config.toml")
    (connections : invocation.sources.connections = some "list")
    (noWatch : ∀ choice, invocation.command ≠ .watch choice) :
    Abreast.Fair Source.fetch tokenlessFiles ⟨words, here, there⟩ := by
  -- The same line is read on both machines, and afterwards both are as bare as before.
  have again : Invocation.read there.environment words = .ok invocation :=
    (Invocation.read_congr same words).trans read
  refine ⟨?_, bare.careful (.inl rfl) read connections noWatch, bare'.careful (.inl rfl) again connections noWatch,
    ?_⟩
  · intro found other
    obtain rfl : found = invocation := Except.ok.inj (other.symm.trans read)
    exact bare.within settings connections
  · intro found other asks place
    obtain rfl : found = invocation := Except.ok.inj (other.symm.trans read)
    obtain ⟨left, -⟩ := bare.ran read connections noWatch asks
    obtain ⟨left', -⟩ := bare'.ran again connections noWatch asks
    rw [Abreast.ranThere, left'.nodes, Abreast.ranHere, left.nodes]

end Tokenless

/-- One command line that asks for a connection, and one that saves it. -/
def tokenlessLines : List (List String) :=
  [tokenlessWords ["render", "-t", "\x7bAPI:a\x7d"],
    tokenlessWords ["connections", "update", "a", "--username", "u"]]

/-- A token that is filled in from a variable for a render is not saved by the next command. -/
theorem secrets_not_kept_token :
    let course := Abreast.course Source.fetch tokenlessLines (tokenlessWorld [])
      (tokenlessWorld [("WALLINFO_SECRET_A", "k")])
    SameOpen [] [("WALLINFO_SECRET_A", "k")] ∧ (∀ pair ∈ course, pair.Fair Source.fetch tokenlessFiles) ∧
      ∀ pair ∈ course, pair.Discreet Source.fetch tokenlessFiles := by
  intro course
  have same : SameOpen [] [("WALLINFO_SECRET_A", "k")] := rfl
  have bare (environment : List (String × String)) : Tokenless (tokenlessWorld environment) :=
    ⟨rfl, fun _ => rfl⟩
  have renders : Invocation.read [] (tokenlessWords ["render", "-t", "\x7bAPI:a\x7d"]) =
      .ok ⟨.render { text := some "\x7bAPI:a\x7d" } false,
        { settings := some "/config.toml", connections := some "list" }, {}⟩ := rfl
  have updates : Invocation.read [] (tokenlessWords ["connections", "update", "a", "--username", "u"]) =
      .ok ⟨.connections (.update "a" { username := some "u" }),
        { settings := some "/config.toml", connections := some "list" }, {}⟩ := rfl
  obtain ⟨left, environment⟩ := (bare []).ran renders rfl (by simp) rfl
  obtain ⟨left', environment'⟩ := (bare [("WALLINFO_SECRET_A", "k")]).ran
    ((Invocation.read_congr same _).trans renders) rfl (by simp) rfl
  have fair : ∀ pair ∈ course, pair.Fair Source.fetch tokenlessFiles := by
    intro pair member
    rcases List.mem_cons.mp member with rfl | later
    · exact (bare _).fair (bare _) same renders rfl rfl (by simp)
    · rw [List.mem_singleton.mp later]
      refine left.fair left' ?_ ((congrArg (Invocation.read · _) environment).trans updates) rfl rfl (by simp)
      -- The render has changed no variables.
      rw [environment, environment']
      exact same
  exact ⟨same, fair, secrets_not_kept Source.fetch tokenlessFiles tokenlessLines _ _ (.refl ..) same fair⟩

/-! ### A file that is made -/

/-- A file of two connections: unless a variable is empty, the command of the first one makes a file where the
second one leads. -/
def makingFile : String :=
  "[\x7b\"Name\":\"a\",\"Url\":\"cmd://test -z $WALLINFO_SECRET_A || echo > x\"\x7d," ++
    "\x7b\"Name\":\"b\",\"Url\":\"x\"\x7d]"

/-- A machine with that file and nothing else. -/
def makingWorld (environment : List (String × String)) : World :=
  ⟨⟨[(["list"], .file (Text.bytes makingFile.toList))], []⟩, environment, ⟨0⟩, "", ""⟩

/-- Rendering the first connection, with the variable empty and not. -/
def making : Abreast :=
  ⟨tokenlessWords ["render", "-t", "\x7bAPI:a\x7d"], makingWorld [], makingWorld [("WALLINFO_SECRET_A", "1")]⟩

/-- Showing the second connection after that. -/
def made : Abreast :=
  ⟨tokenlessWords ["connections", "show", "b"], (making.ranHere Source.fetch).2, (making.ranThere Source.fetch).2⟩

/-- A command that makes a file where a secret is set lets the secret be seen: a connection that leads there is
shown as another kind of source. The file of connections is left alone. -/
theorem secrets_not_kept_unless_made :
    making.there.disk = making.here.disk ∧ SameOpen making.here.environment making.there.environment ∧
      made.here.disk.at? ["list"] = making.here.disk.at? ["list"] ∧
      made.there.disk.at? ["list"] = making.there.disk.at? ["list"] ∧
      ¬AnswerAlike made.here made.there (made.ranHere Source.fetch) (made.ranThere Source.fetch) := by
  refine ⟨rfl, rfl, by decide +kernel, by decide +kernel, fun alike => ?_⟩
  -- Both machines had put out the same before, but what they have put out after it differs.
  obtain ⟨text, here, there⟩ := alike.said
  have before : made.here.said = made.there.said := by decide +kernel
  have differ : (made.ranHere Source.fetch).2.said ≠ (made.ranThere Source.fetch).2.said := by decide +kernel
  rw [here, there, before] at differ
  exact differ rfl

end Placard
