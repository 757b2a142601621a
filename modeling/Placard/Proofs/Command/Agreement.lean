import Placard.Command.Run
import Placard.Proofs.Command.Connections
import Placard.Proofs.Report.Inspected
import Placard.Proofs.Report.Single

/-! Testing a connection and rendering its tag agree: the same value is put out, for the same reason. -/

namespace Placard

/-! ### Actions of commands -/

/-- An action that cannot fail gives its value. -/
@[simp] theorem outcome_lift {α : Type} (action : StateM World α) (world : World) :
    outcome (ExceptT.lift action) world = (.ok (action.run world).1, (action.run world).2) := rfl

/-- Looking over a transport looks at the disk, and changes nothing. -/
theorem Transport.exists_verdict (transport : Transport) :
    ∃ verdict : Disk → Except SourceError Unit, ∀ world,
      (transport.check : StateM World (Except SourceError Unit)).run world = (verdict world.disk, world) := by
  refine ⟨fun disk => ((transport.check : StateM World (Except SourceError Unit)).run
    ⟨disk, [], ⟨0⟩, "", ""⟩).1, fun world => ?_⟩
  obtain ⟨trust, userAgent⟩ := transport
  cases trust with
  | system => rfl
  | anyone => rfl
  | authority path =>
    -- The certificate is read from the disk, and from nowhere else.
    have read (world : World) :
        (Machine.read path : StateM World (Except FileFault (List UInt8))).run world =
          (world.disk.read path, world) := rfl
    rw [check]
    simp only [StateT.run_bind, read, id_bind_eq]
    cases world.disk.read path <;> rfl

/-- Setting up the fetching of sources is the same on machines with the same disk. -/
theorem Context.exists_renderer (fetch : Fetch (StateM World)) (context : Context) (disk : Disk) :
    (∃ failure, ∀ note world, world.disk = disk →
      outcome (context.renderer (Transport.connect fetch) note) world = (.error failure, world)) ∨
    ∀ note world, world.disk = disk →
      Looks (context.renderer (Transport.connect fetch) note) world ⟨fetch, context.budget, note⟩ := by
  obtain ⟨verdict, checked⟩ := context.settings.transport.exists_verdict
  have connected (world : World) :
      (Transport.connect fetch context.settings.transport : StateM World _).run world =
        ((verdict world.disk).map fun _ => fetch, world) := by
    rw [Transport.connect, StateT.run_bind, checked]
    rfl
  have made (note : Option String) (world : World) (same : world.disk = disk) :
      outcome (context.renderer (Transport.connect fetch) note) world =
        (((verdict disk).mapError Failure.ofSource).map fun _ => ⟨fetch, context.budget, note⟩, world) := by
    rw [Context.renderer, outcome_bind, outcome_orFail, connected, same]
    cases verdict disk <;> rfl
  cases answer : verdict disk with
  | error error =>
    refine .inl ⟨Failure.ofSource error, fun note world same => ?_⟩
    rw [made note world same, answer]
    rfl
  | ok _ =>
    refine .inr fun note world same => ?_
    rw [Looks, made note world same, answer]
    rfl

/-- With the usual transport, the fetching of sources can always be set up. -/
theorem Context.outcome_renderer_usual {context : Context}
    (usual : context.settings.transport = ⟨.system, usualUserAgent⟩) (fetch : Fetch (StateM World))
    (note : Option String) (world : World) :
    outcome (context.renderer (Transport.connect fetch) note) world =
      (.ok ⟨fetch, context.budget, note⟩, world) := by
  have fits : usualUserAgent.toList.all Credentials.fitsHeader = true := by decide
  have checked : (Transport.check ⟨.system, usualUserAgent⟩ : StateM World _).run world = (.ok (), world) := by
    rw [Transport.check, fits]
    rfl
  rw [Context.renderer, outcome_bind, outcome_orFail, usual, Transport.connect, StateT.run_bind, checked]
  rfl

/-- The line that a text takes up on the output: none where all is quiet or the text is empty. -/
def Presentation.line (presentation : Presentation) (text : String) : String :=
  if presentation.quiet || text == "" then "" else text ++ "\n"

/-- Showing a text adds its line to what was put out. -/
theorem Presentation.shown_said (presentation : Presentation) (text : String) (world : World) :
    (presentation.shown text world).said = world.said ++ presentation.line text := by
  unfold shown line
  split
  · rw [String.append_empty]
  · rfl

/-! ### What reading sources leaves alone -/

/-- Reading sources puts nothing out. -/
def Silent (fetch : Fetch (StateM World)) : Prop :=
  ∀ source budget world, ((fetch source budget).run world).2.said = world.said

/-- What reading one source leaves alone, inspecting a connection leaves alone. -/
theorem inspect_keeps {α : Type} {fetch : Fetch (StateM World)} (part : World → α)
    (keeps : ∀ source budget world, part ((fetch source budget).run world).2 = part world)
    (budget : Duration) (connection : Connection) (world : World) :
    part ((connection.inspect fetch budget).run world).2 = part world := by
  rw [Connection.inspect_run]
  exact keeps _ _ _

/-- What reading one source leaves alone, resolving connections leaves alone. -/
theorem mapM_resolveTag_keeps {α : Type} {renderer : Renderer (StateM World)} (part : World → α)
    (keeps : ∀ source budget world, part ((renderer.fetch source budget).run world).2 = part world)
    (connections : List Connection) (world : World) :
    part ((connections.mapM renderer.resolveTag).run world).2 = part world := by
  have each (connection : Connection) (_ : connection ∈ connections) :
      Preserves (part · = part world) (fun _ => True) (renderer.resolveTag connection) :=
    fun state same => ⟨trivial, (inspect_keeps part keeps renderer.budget connection state).trans same⟩
  exact (Preserves.mapM each world rfl).2

/-- Making a report puts nothing out. -/
theorem Silent.report {renderer : Renderer (StateM World)} (silent : Silent renderer.fetch)
    (template : String) (facts : Facts) (registry : Registry) (world : World) :
    ((renderer.report template facts registry).run world).2.said = world.said := by
  rw [Renderer.report]
  simp only [StateT.run_bind, id_bind_eq, StateT.run_pure, id_pure_eq]
  exact mapM_resolveTag_keeps World.said silent _ world

/-- Sources that answer the same at all times, and change no file, answer alike whatever is read between. -/
theorem answeredAlike_of_steady {renderer : Renderer (StateM World)}
    (steady : ∀ source budget world other, ((renderer.fetch source budget).run world).1 =
      ((renderer.fetch source budget).run other).1)
    (still : ∀ source budget world, ((renderer.fetch source budget).run world).2.disk = world.disk)
    (connection : Connection) (name : String) (connections : List Connection) {world other : World}
    (disk : other.disk = world.disk) :
    AnsweredAlike renderer.fetch renderer.budget connection world
      (renderer.comingTo name connections other) := by
  -- Which source a location names depends on the disk only.
  have same : (renderer.comingTo name connections other).disk = world.disk :=
    (mapM_resolveTag_keeps World.disk still _ other).trans disk
  have source (machine : World) : ((connection.source : StateM World Source).run machine).1 =
      .ofLocation ((machine.disk.node? connection.url).map Node.kind == some .file) connection.url
        connection.method connection.credentials := rfl
  exact ⟨_, _, rfl, by rw [source, source, same], rfl, steady ..⟩

/-! ### Testing and rendering -/

section Commands

variable {fetch : Fetch (StateM World)} {sources : Sources} {presentation : Presentation}
  {world : World} {context : Context} {registry : Registry}

/-- Testing a connection puts out what is seen of it with its secret filled in. -/
theorem outcome_test {name : String} {connection : Connection}
    (loads : Looks (Context.load sources) world context)
    (read : Registry.loaded world.disk context.connectionsPath = .ok registry)
    (held : registry.get? name = some connection) :
    outcome (Invocation.run (Transport.connect fetch) ⟨.connections (.test name), sources, presentation⟩) world =
      match outcome (context.renderer (Transport.connect fetch) none) world with
      | (.error failure, after) => (.error failure, after)
      | (.ok renderer, after) =>
        let seen := ((connection.filled (secretAmong context.environment)).inspect renderer.fetch
          renderer.budget).run after
        (.ok (), presentation.shown ((seen.1.view name presentation).text presentation.format) seen.2) := by
  have started : outcome (Context.load sources) world = (.ok context, world) := loads
  rw [Invocation.run]
  simp only [outcome_bind, started, Command.runConnections, Command.runTest, Context.outcome_registry, read,
    mapError_ok, outcome_find, held]
  rcases outcome (context.renderer (Transport.connect fetch) none) world with ⟨result, after⟩
  cases result with
  | error failure => rfl
  | ok renderer => simp only [outcome_lift, Presentation.outcome_putView]

/-- Rendering a template puts out the text of the report on it, with all secrets filled in. -/
theorem outcome_render {template note : String} (loads : Looks (Context.load sources) world context)
    (read : Registry.loaded world.disk context.connectionsPath = .ok registry) :
    outcome (Invocation.run (Transport.connect fetch)
        ⟨.render { text := some template, note := some note } false, sources, presentation⟩) world =
      match outcome (context.renderer (Transport.connect fetch) (some note)) world with
      | (.error failure, after) => (.error failure, after)
      | (.ok renderer, after) =>
        let made := (renderer.report template (.ofVariables context.environment)
          (context.withSecrets registry)).run after
        (.ok (), presentation.shown (made.1.view.text presentation.format) made.2) := by
  have started : outcome (Context.load sources) world = (.ok context, world) := loads
  have choice : outcome (TemplateChoice.load { text := some template, note := some note } context.settings)
      world = (.ok template, world) := rfl
  have shown : TemplateChoice.shownNote { text := some template, note := some note } context.settings =
      some note := rfl
  rw [Invocation.run]
  simp only [outcome_bind, started, Command.runRender, choice, Context.outcome_registry, read, mapError_ok,
    shown]
  rcases outcome (context.renderer (Transport.connect fetch) (some note)) world with ⟨result, after⟩
  cases result with
  | error failure => rfl
  | ok renderer =>
    simp only [outcome_lift]
    exact Presentation.outcome_putView ..

/-- On machines with the same disk and variables, a command loads the same settings. -/
theorem looks_load_same {other : World} (disk : other.disk = world.disk)
    (environment : other.environment = world.environment)
    (loads : Looks (Context.load sources) world context) : Looks (Context.load sources) other context := by
  obtain ⟨settings, loaded, rfl⟩ := Context.looks_load_iff.mp loads
  rw [Context.looks_load_iff, environment]
  refine ⟨settings, ?_, rfl⟩
  rw [Settings.loaded, disk, environment, ← Settings.loaded]
  exact loaded

/-- A connection whose secret is filled in stands in the registry with all secrets filled in. -/
theorem filled_mem {connection : Connection} (member : connection ∈ registry.toList) :
    connection.filled (secretAmong context.environment) ∈ (context.withSecrets registry).toList := by
  have all : (context.withSecrets registry).toList =
      registry.toList.map (·.filled (secretAmong context.environment)) := by
    simp [Context.withSecrets, Registry.fill, Registry.mapConnections, Registry.toList, Function.comp_def]
  rw [all]
  exact List.mem_map_of_mem member

/-- The report on the tag of a connection tells of it what its inspection tells, in the same words. -/
theorem report_inspection {other : World} (sound : registry.Sound) {connection : Connection}
    (member : connection ∈ registry.toList)
    (plain : ∀ token ∈ factTokens, ¬ token.toList <:+: connection.tag.toList)
    (alike : AnsweredAlike fetch context.budget (connection.filled (secretAmong context.environment)) world
      (Renderer.comingTo ⟨fetch, context.budget, some ""⟩ connection.name
        ((context.withSecrets registry).mentioned connection.tag) other)) :
    let resolution := (((connection.filled (secretAmong context.environment)).inspect fetch
      context.budget).run world).1.resolution
    let report := ((Renderer.report ⟨fetch, context.budget, some ""⟩ connection.tag
      (.ofVariables context.environment) (context.withSecrets registry)).run other).1
    report.tags.filter (·.connection == connection.name) =
      [⟨connection.name, connection.tag, resolution⟩] ∧ report.text = resolution.text := by
  intro resolution report
  have name : (connection.filled (secretAmong context.environment)).name = connection.name :=
    Registry.filled_name ..
  have tag : (connection.filled (secretAmong context.environment)).tag = connection.tag := by
    rw [Connection.tag, name, Connection.tag]
  have filled : (context.withSecrets registry).Sound := sound.fill (secretAmong context.environment)
  obtain ⟨made, final, ran, entry, text⟩ := Renderer.report_tag ⟨fetch, context.budget, some ""⟩
    (.ofVariables context.environment) filled (filled_mem member) (tag ▸ plain) other
  -- The turn of the connection comes on a machine on which it is answered as in its inspection.
  have resolved (state : World) : ((Connection.resolve fetch context.budget
      (connection.filled (secretAmong context.environment))).run state).1 =
        (((connection.filled (secretAmong context.environment)).inspect fetch
          context.budget).run state).1.resolution :=
    rfl
  rw [name, tag, resolved, alike.inspect] at entry
  rw [name, tag, resolved, alike.inspect] at text
  rw [tag] at ran
  have same : report = made := congrArg Prod.fst ran
  have trimmed : Text.trimEnd (resolution.text ++ noteLine (some "")) = resolution.text := by
    have blank : noteLine (some "") = "" := rfl
    rw [blank, String.append_empty]
    exact Connection.trimEnd_inspect ..
  rw [same]
  exact ⟨entry, text.trans trimmed⟩

/-- Testing a connection and rendering its tag agree, if the source gives both the same answer.

Both fail for the same reason before any source is read, or both succeed: the report has one entry for the
connection, with the outcome of the test, and in plain format the same text is put out. -/
theorem test_agrees (silent : Silent fetch) {other : World} (disk : other.disk = world.disk)
    (environment : other.environment = world.environment)
    (loads : Looks (Context.load sources) world context)
    (read : Registry.loaded world.disk context.connectionsPath = .ok registry)
    {name : String} {connection : Connection} (held : registry.get? name = some connection)
    (plain : ∀ token ∈ factTokens, ¬ token.toList <:+: ("\x7bAPI:" ++ name ++ "\x7d").toList)
    (alike : AnsweredAlike fetch context.budget (connection.filled (secretAmong context.environment)) world
      (Renderer.comingTo ⟨fetch, context.budget, some ""⟩ name
        ((context.withSecrets registry).mentioned ("\x7bAPI:" ++ name ++ "\x7d")) other)) :
    let test := outcome (Invocation.run (Transport.connect fetch)
      ⟨.connections (.test name), sources, presentation⟩) world
    let render := outcome (Invocation.run (Transport.connect fetch)
      ⟨.render { text := some ("\x7bAPI:" ++ name ++ "\x7d"), note := some "" } false, sources,
        presentation⟩) other
    (∃ failure, test = (.error failure, world) ∧ render = (.error failure, other)) ∨
    ∃ inspection report,
      (((connection.filled (secretAmong context.environment)).inspect fetch context.budget).run world).1 =
        inspection ∧
      ((Renderer.report ⟨fetch, context.budget, some ""⟩ ("\x7bAPI:" ++ name ++ "\x7d")
        (.ofVariables context.environment) (context.withSecrets registry)).run other).1 = report ∧
      report.tags.filter (·.connection == name) =
        [⟨name, "\x7bAPI:" ++ name ++ "\x7d", inspection.resolution⟩] ∧
      report.text = inspection.resolution.text ∧
      test.1 = .ok () ∧ render.1 = .ok () ∧
      test.2.said =
        world.said ++ presentation.line ((inspection.view name presentation).text presentation.format) ∧
      render.2.said = other.said ++ presentation.line (report.view.text presentation.format) ∧
      (presentation.format = .plain → ∃ line,
        test.2.said = world.said ++ line ∧ render.2.said = other.said ++ line) := by
  intro test render
  have named : connection.name = name :=
    ((Registry.loaded_sound read).get?_eq_some_iff.mp held).2
  subst named
  have loads' := looks_load_same disk environment loads
  have read' : Registry.loaded other.disk context.connectionsPath = .ok registry := disk ▸ read
  have tested : test = _ := outcome_test loads read held
  have rendered : render = _ := outcome_render loads' read'
  rcases context.exists_renderer fetch world.disk with ⟨failure, refused⟩ | set_
  · -- A transport that cannot be set up fails both before any source is read.
    rw [refused none world rfl] at tested
    rw [refused (some "") other disk] at rendered
    exact .inl ⟨failure, tested, rendered⟩
  · have bare : outcome (context.renderer (Transport.connect fetch) none) world =
      (.ok ⟨fetch, context.budget, none⟩, world) := set_ none world rfl
    have noted : outcome (context.renderer (Transport.connect fetch) (some "")) other =
      (.ok ⟨fetch, context.budget, some ""⟩, other) := set_ (some "") other disk
    rw [bare] at tested
    rw [noted] at rendered
    have member := ((Registry.loaded_sound read).get?_eq_some_iff.mp held).1
    obtain ⟨entry, text⟩ := report_inspection (Registry.loaded_sound read) member plain alike
    have testSaid : test.2.said = world.said ++ presentation.line
        (((((connection.filled (secretAmong context.environment)).inspect fetch context.budget).run
          world).1.view connection.name presentation).text presentation.format) := by
      rw [tested]
      simp only []
      rw [Presentation.shown_said, inspect_keeps World.said silent]
    have renderSaid : render.2.said = other.said ++ presentation.line
        (((Renderer.report ⟨fetch, context.budget, some ""⟩ ("\x7bAPI:" ++ connection.name ++ "\x7d")
          (.ofVariables context.environment) (context.withSecrets registry)).run other).1.view.text
            presentation.format) := by
      rw [rendered]
      simp only []
      rw [Presentation.shown_said, Silent.report silent]
    refine .inr ⟨_, _, rfl, rfl, entry, text, by rw [tested], by rw [rendered], testSaid, renderSaid, ?_⟩
    -- In plain format, both put out the bare value.
    intro format
    rw [format] at testSaid renderSaid
    exact ⟨_, testSaid, renderSaid.trans
      (congrArg (fun text => other.said ++ presentation.line text) text)⟩

end Commands

/-- A fetcher that answers a request with its token, between blanks. -/
def tokenFetch : Fetch (StateM World) := fun source budget =>
  return match source with
  | .http ⟨_, _, .bearer token⟩ => .ok (" " ++ token ++ "\n")
  | _ => .error (.timedOut budget)

/-- A connection whose tag has the tag of another one inside. -/
def nestedRegistry : Registry :=
  ⟨[("a", { name := "a", url := "x" }),
    ("b\x7d\x7bAPI:a", { name := "b\x7d\x7bAPI:a", url := "y", auth := .bearer })]⟩

/-- A world with a file of these connections, and a variable with the secret that is missing there. -/
def nestedWorld (clock : Nat) : World :=
  ⟨⟨[(["list"], .file (Text.bytes nestedRegistry.write.toList))], []⟩,
    [("WALLINFO_SECRET_B__API_A", "s")], ⟨clock⟩, "", ""⟩

/-- What a command works on in such a world, when it is led to that file. -/
def nestedContext : Context :=
  Sources.context { settings := some "/config.toml", connections := some "list" }
    [("WALLINFO_SECRET_B__API_A", "s")] Settings.usual

/-- In such a world a command works on the usual settings, and on these connections. -/
theorem nestedWorld_loads :
    Looks (Context.load { settings := some "/config.toml", connections := some "list" }) (nestedWorld 0)
      nestedContext ∧
    Registry.loaded (nestedWorld 0).disk nestedContext.connectionsPath = .ok nestedRegistry := by
  constructor
  · have missing : (nestedWorld 0).disk.settingsFile? "/config.toml" = none := rfl
    refine Context.looks_load_iff.mpr ⟨_, ?_, rfl⟩
    show Settings.loaded (nestedWorld 0) "/config.toml" = .ok Settings.usual
    rw [Settings.loaded, Settings.givenFile, missing]
    rfl
  · have sound : nestedRegistry.Sound := ⟨by decide, by decide, by decide⟩
    have content : (nestedWorld 0).disk.read "list" = .ok (Text.bytes nestedRegistry.write.toList) := rfl
    exact sound.loaded_written content

/-- Testing the outer connection of such a world, with the bare value put out. -/
def nestedTest : Except Failure Unit × World :=
  outcome (Invocation.run (Transport.connect tokenFetch)
    ⟨.connections (.test "b\x7d\x7bAPI:a"),
      { settings := some "/config.toml", connections := some "list" }, { format := .plain }⟩) (nestedWorld 0)

/-- Rendering its tag at another time. -/
def nestedRender : Except Failure Unit × World :=
  outcome (Invocation.run (Transport.connect tokenFetch)
    ⟨.render { text := some ("\x7bAPI:" ++ "b\x7d\x7bAPI:a" ++ "\x7d"), note := some "" } false,
      { settings := some "/config.toml", connections := some "list" }, { format := .plain }⟩) (nestedWorld 9)

/-- The token that a variable holds is put out by either command, and not the failure of the tag inside. -/
theorem test_agrees_nested :
    nestedTest.1 = .ok () ∧ nestedRender.1 = .ok () ∧ nestedTest.2.said = "s\n" ∧
      nestedRender.2.said = "s\n" := by
  obtain ⟨loads, read⟩ := nestedWorld_loads
  have held : nestedRegistry.get? "b\x7d\x7bAPI:a" =
      some { name := "b\x7d\x7bAPI:a", url := "y", auth := .bearer } := rfl
  have agree := @test_agrees tokenFetch _ { format := .plain } (nestedWorld 0) _ _
    (fun _ _ _ => rfl) (nestedWorld 9) rfl rfl loads read _ _ held (by decide)
    (@answeredAlike_of_steady ⟨tokenFetch, nestedContext.budget, some ""⟩ (fun _ _ _ _ => rfl)
      (fun _ _ _ => rfl) _ _ _ _ _ rfl)
  have ran := @outcome_test tokenFetch _ { format := .plain } _ _ _ _ _ loads read held
  have set_ : outcome (nestedContext.renderer (Transport.connect tokenFetch) none) (nestedWorld 0) =
      (.ok ⟨tokenFetch, nestedContext.budget, none⟩, nestedWorld 0) :=
    Context.outcome_renderer_usual rfl _ _ _
  have seen : ((Connection.inspect tokenFetch nestedContext.budget
      (Connection.filled (secretAmong nestedContext.environment)
        { name := "b\x7d\x7bAPI:a", url := "y", auth := .bearer })).run (nestedWorld 0)).1.resolution.text = "s" := by
    decide +kernel
  rcases agree with ⟨failure, failed, -⟩ |
    ⟨inspection, report, inspected, -, -, text, tested, rendered, testSaid, renderSaid, -⟩
  · -- The usual transport can always be set up.
    rw [set_] at ran
    cases failed.symm.trans ran
  · rw [inspected] at seen
    refine ⟨tested, rendered, testSaid.trans ?_, renderSaid.trans ?_⟩
    · show "" ++ Presentation.line { format := .plain } inspection.resolution.text = _
      rw [seen]
      rfl
    · show "" ++ Presentation.line { format := .plain } report.text = _
      rw [text, seen]
      rfl

end Placard
