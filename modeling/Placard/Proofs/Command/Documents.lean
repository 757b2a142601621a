import Placard.Proofs.Command.Spared
import Placard.Proofs.Command.Together
import Placard.Proofs.Json.Documents

/-! What is reported in the formats for machines: one document, or one line for each outcome of a watch. -/

namespace Placard

open Json (Texts Tidy Faithful)

/-! ### Texts that are reported -/

/-- Texts under keys. -/
def Json.Texts.ofFields (fields : List (String × String)) : Texts :=
  fields.map fun (key, text) => ([.member key], text)

/-- The texts of each element of a list, under its number. -/
def Json.Texts.ofItems {α : Type} (each : α → Texts) (items : List α) : Texts :=
  items.zipIdx.flatMap fun (item, index) => (each item).below (.item index)

/-- The texts that tell what became of a connection. -/
def TagResolution.fields (tag : TagResolution) : List (String × String) :=
  [("connection", tag.connection), ("status", tag.resolution.status), ("value", tag.resolution.text)] ++
    tag.resolution.detail?.toList.map (("detail", ·))

/-- The texts of the summary of a connection. -/
def ConnectionSummary.fields (summary : ConnectionSummary) : List (String × String) :=
  [("name", summary.name), ("url", summary.url), ("kind", summary.kind.word), ("method", summary.method.word),
    ("auth_type", summary.auth.word), ("username", summary.username), ("content_type", summary.grammar.word),
    ("selector", summary.selector)]

/-- The texts that tell what was seen of a connection. -/
def Inspection.fields (inspection : Inspection) (name : String) : List (String × String) :=
  [("connection", name), ("kind", inspection.kind.word), ("status", inspection.resolution.status),
    ("value", inspection.resolution.text)] ++ inspection.resolution.detail?.toList.map (("detail", ·)) ++
    inspection.body.toList.map (("raw", ·))

/-- The texts of settings that stand at the top. -/
def Settings.fields (settings : Settings) : List (String × String) :=
  [("template", settings.template)] ++ settings.note.toList.map (("note", ·)) ++
    settings.connectionsFile.toList.map (("connections_file", ·))

/-- The texts of the settings of web requests. -/
def WebSettings.fields (web : WebSettings) : List (String × String) :=
  web.authority.toList.map (("ca_cert", ·)) ++ web.userAgent.toList.map (("user_agent", ·))

/-- Something that a command reports. -/
inductive Reported
  | report (report : Report)
  | outcome (outcome : Outcome)
  | summaries (summaries : List ConnectionSummary)
  | summary (summary : ConnectionSummary)
  | inspection (inspection : Inspection) (name : String)
  | placement (placement : Placement)
  | settings (settings : Settings) (path : String)
  | paths (paths : FilePaths)

namespace Reported

/-- What is reported, as a JSON value. -/
def json : Reported → Json
  | .report made => made.view.json
  | .outcome made => made.toJson
  | .summaries listed => (ConnectionSummary.listView listed).json
  | .summary shown => shown.view.json
  | .inspection seen name => seen.toJson name
  | .placement placed => placed.view.json
  | .settings held path => (held.view path).json
  | .paths found => found.view.json

/-- The texts that are reported, at their places. -/
def texts : Reported → Texts
  | .report made => .ofFields [("text", made.text)] ++
      (Texts.ofItems (fun tag => .ofFields tag.fields) made.tags).below (.member "connections")
  | .outcome made => .ofFields [("text", made.text), ("rendered_at", made.renderedAt.zulu)]
  | .summaries listed => .ofItems (fun summary => .ofFields summary.fields) listed
  | .summary shown => .ofFields shown.fields
  | .inspection seen name => .ofFields (seen.fields name)
  | .placement _ => []
  | .settings held _ => .ofFields held.fields ++ (Texts.ofFields held.web.fields).below (.member "http")
  | .paths found => .ofFields [("config", found.settings), ("connections", found.connections)]

end Reported

/-! ### The values that are reported are tidy -/

namespace Json

/-- The texts in values made of the elements of a list are those of each element. -/
theorem textsOfItems_map {α : Type} (write : α → Json) (each : α → Texts) (items : List α)
    (same : ∀ item ∈ items, (write item).texts = each item) :
    textsOfItems 0 (items.map write) = .ofItems each items := by
  -- The numbers go on from where the elements before have left off.
  have from_ (index : Nat) : textsOfItems index (items.map write) =
      (items.zipIdx index).flatMap fun (item, index) => (each item).below (.item index) := by
    induction items generalizing index with
    | nil => rfl
    | cons item others ih =>
      rw [List.forall_mem_cons] at same
      rw [List.map_cons, textsOfItems, same.1, ih same.2, List.zipIdx_cons, List.flatMap_cons]
  exact from_ 0

/-- A length is tidy. -/
theorem tidy_nat {value : Nat} (small : value ≤ maxWord) : Tidy (.nat value) :=
  .integer ⟨by omega, by exact_mod_cast small⟩

/-- A value fits when it is tidy and is nested no deeper than so many levels. -/
structure Fits (levels : Nat) (value : Json) : Prop where
  tidy : Tidy value
  shallow : value.depth ≤ levels

/-- An array of values that fit takes one more level. -/
theorem Fits.array {levels : Nat} {items : List Json} (each : ∀ item ∈ items, Fits levels item) :
    Fits (levels + 1) (.array items) where
  tidy := .array fun item among => (each item among).tidy
  shallow := by
    rw [depth, Nat.add_le_add_iff_right, depthItems_le_iff]
    exact fun item among => (each item among).shallow

/-- An object of values that fit, under different keys, takes one more level. -/
theorem Fits.object {levels : Nat} {members : List (String × Json)} (apart : (members.map (·.1)).Nodup)
    (each : ∀ member ∈ members, Fits levels member.2) : Fits (levels + 1) (.object members) where
  tidy := .object apart fun member among => (each member among).tidy
  shallow := by
    rw [depth, Nat.add_le_add_iff_right, depthMembers_le_iff]
    exact fun member among => (each member among).shallow

variable {levels : Nat}

/-- A text fits. -/
theorem fits_string (text : String) : Fits levels (.string text) := ⟨.string text, Nat.zero_le _⟩

/-- A truth value fits. -/
theorem fits_bool (value : Bool) : Fits levels (.bool value) := ⟨.bool value, Nat.zero_le _⟩

/-- A length of 32 bits fits. -/
theorem fits_length (length : UInt32) : Fits levels (.nat length.toNat) := by
  have small := length.toNat_lt
  exact ⟨tidy_nat (by unfold maxWord; omega), Nat.zero_le _⟩

/-- A number of 64 bits fits. -/
theorem fits_word (word : UInt64) : Fits levels (.nat word.toNat) := by
  have small := word.toNat_lt
  exact ⟨tidy_nat (by unfold maxWord; omega), Nat.zero_le _⟩

/-- A text that may be missing fits. -/
theorem fits_text? (text : Option String) : Fits levels (.text? text) := by
  cases text with
  | none => exact ⟨.null, Nat.zero_le _⟩
  | some text => exact fits_string text

end Json

open Json (Fits)

/-- What became of a connection fits below two levels. -/
theorem TagResolution.fits (tag : TagResolution) : Fits 1 tag.toJson := by
  unfold toJson
  cases tag.resolution.detail? with
  | none => exact .object (by simp) (by simp [Json.fits_string])
  | some detail => exact .object (by simp) (by simp [Json.fits_string])

/-- The texts that tell what became of a connection are those in its value. -/
theorem TagResolution.texts_toJson (tag : TagResolution) : tag.toJson.texts = .ofFields tag.fields := by
  unfold toJson fields
  cases tag.resolution.detail? <;> rfl

/-- The summary of a connection fits one level. -/
theorem ConnectionSummary.fits (summary : ConnectionSummary) : Fits 1 summary.toJson :=
  .object (by simp) (by simp [Json.fits_string, Json.fits_bool])

/-- What was seen of a connection fits one level. -/
theorem Inspection.fits (inspection : Inspection) (name : String) : Fits 1 (inspection.toJson name) := by
  unfold toJson
  cases inspection.resolution.detail? with
  | none => exact .object (by simp) (by simp [Json.fits_string, Json.fits_text?])
  | some detail => exact .object (by simp) (by simp [Json.fits_string, Json.fits_text?])

/-- The texts that tell what was seen of a connection are those in its value. -/
theorem Inspection.texts_toJson (inspection : Inspection) (name : String) :
    (inspection.toJson name).texts = .ofFields (inspection.fields name) := by
  unfold toJson fields
  cases inspection.resolution.detail? <;> cases inspection.body <;> rfl

/-- A block fits one level. -/
theorem Block.fits (block : Block) : Fits 1 block.toJson := by
  refine .object (by simp) ?_
  simp only [List.forall_mem_cons, List.not_mem_nil, false_implies, implies_true, and_true]
  exact ⟨Json.fits_length _, Json.fits_length _, Json.fits_length _, Json.fits_length _⟩

/-- A placement fits two levels. -/
theorem Placement.fits (placement : Placement) : Fits 2 placement.toJson := by
  refine .object (by simp) ?_
  simp only [List.forall_mem_cons, List.not_mem_nil, false_implies, implies_true, and_true]
  refine ⟨placement.block.fits, .object (by simp) ?_, .object (by simp) ?_⟩
  · simp only [List.forall_mem_cons, List.not_mem_nil, false_implies, implies_true, and_true]
    exact ⟨Json.fits_length _, Json.fits_length _, Json.fits_length _, Json.fits_length _⟩
  · simp only [List.forall_mem_cons, List.not_mem_nil, false_implies, implies_true, and_true]
    exact ⟨Json.fits_length _, Json.fits_length _⟩

/-- Settings fit two levels, whatever number the scale of their preview is. -/
theorem Settings.fits (settings : Settings) : Fits 2 settings.toJson := by
  refine .object (by simp) ?_
  simp only [List.forall_mem_cons, List.not_mem_nil, false_implies, implies_true, and_true]
  refine ⟨Json.fits_word _, Json.fits_word _, Json.fits_string _, Json.fits_text? _, Json.fits_text? _,
    settings.placement.fits, .object (by simp) ?_, .object (by simp) ?_⟩
  · simp only [List.forall_mem_cons, List.not_mem_nil, false_implies, implies_true, and_true]
    exact ⟨Json.fits_length _, Json.fits_length _, .float _, Nat.zero_le _⟩
  · simp only [List.forall_mem_cons, List.not_mem_nil, false_implies, implies_true, and_true]
    exact ⟨Json.fits_bool _, Json.fits_text? _, Json.fits_text? _⟩

namespace Reported

/-- All that is reported fits three levels. -/
theorem fits (reported : Reported) : Fits 3 reported.json := by
  cases reported with
  | report report =>
    refine .object (by simp) ?_
    simp only [List.forall_mem_cons, List.not_mem_nil, false_implies, implies_true, and_true]
    refine ⟨Json.fits_string _, .array ?_⟩
    rw [List.forall_mem_map]
    exact fun tag _ => tag.fits
  | outcome outcome => exact .object (by simp) (by simp [Json.fits_string])
  | summaries summaries =>
    refine .array ?_
    rw [List.forall_mem_map]
    exact fun summary _ => ⟨summary.fits.tidy, summary.fits.shallow.trans (by decide)⟩
  | summary summary => exact ⟨summary.fits.tidy, summary.fits.shallow.trans (by decide)⟩
  | inspection inspection name =>
    have fits := inspection.fits name
    exact ⟨fits.tidy, fits.shallow.trans (by decide)⟩
  | placement placement => exact ⟨placement.fits.tidy, placement.fits.shallow.trans (by decide)⟩
  | settings settings path => exact ⟨settings.fits.tidy, settings.fits.shallow.trans (by decide)⟩
  | paths paths => exact .object (by simp) (by simp [Json.fits_string, Json.fits_bool])

/-- The texts in the value of what is reported are the texts that are reported. -/
theorem texts_json (reported : Reported) : reported.json.texts = reported.texts := by
  cases reported with
  | report report =>
    have tags := Json.textsOfItems_map _ _ report.tags fun tag _ => tag.texts_toJson
    show ([.member "text"], report.text) :: ((Json.textsOfItems 0 _).below (.member "connections") ++ []) = _
    rw [tags, List.append_nil]
    rfl
  | outcome outcome => rfl
  | summaries summaries => exact Json.textsOfItems_map _ _ summaries fun summary _ => rfl
  | summary summary => rfl
  | inspection inspection name => exact inspection.texts_toJson name
  | placement placement => rfl
  | settings settings path =>
    obtain ⟨timeout, refresh, template, note, connectionsFile, placement, target, insecure, authority, agent⟩ :=
      settings
    cases note <;> cases connectionsFile <;> cases authority <;> cases agent <;> rfl
  | paths paths => rfl

/-- Both documents of what is reported are faithful to its texts. -/
theorem faithful (reported : Reported) :
    Faithful reported.json.pretty reported.json.compact reported.texts := by
  rw [← reported.texts_json]
  exact reported.fits.tidy.faithful (Nat.lt_of_le_of_lt reported.fits.shallow (by decide))

/-- What is reported, as a document in one of the formats for machines. -/
def document (reported : Reported) : OutputFormat → String
  | .jsonCompact => reported.json.compact
  | _ => reported.json.pretty

/-- No document is empty. -/
theorem document_ne (reported : Reported) (format : OutputFormat) : reported.document format ≠ "" := by
  obtain ⟨held, pretty, compact, -⟩ := reported.faithful.read
  -- Nothing is read from an empty text.
  have empty {text : String} (parsed : Json.parse text = .ok held) : text ≠ "" := by
    rintro rfl
    cases parsed
  unfold document
  split
  · exact empty compact
  · exact empty pretty

end Reported

/-! ### Commands that report -/

/-- What a command may report. -/
def Command.Reports : Command → Reported → Prop
  | .render .., .report _ => True
  | .connections .list, .summaries _ => True
  | .connections (.view name), .summary summary => summary.name = name
  | .connections (.test name), .inspection _ shown => shown = name
  | .place _, .placement _ => True
  | .config .view, .settings .. => True
  | .config .paths, .paths _ => True
  | _, _ => False

/-- A command reports what it finds, at once and at its end. -/
def Command.reports : Command → Bool
  | .render .. | .connections .list | .connections (.view _) | .connections (.test _) | .place _
  | .config .view | .config .paths => true
  | _ => false

/-- A format is one of the two for machines. -/
def OutputFormat.isJson (format : OutputFormat) : Bool :=
  format == .json || format == .jsonCompact

/-- There are two formats for machines. -/
theorem OutputFormat.isJson_iff {format : OutputFormat} :
    format.isJson = true ↔ format = .json ∨ format = .jsonCompact := by
  cases format <;> decide

/-- What a command that reports puts on the output: nothing if it fails, and else the line of one document. -/
def Presentation.announced (presentation : Presentation) : Except Failure Reported → String
  | .error _ => ""
  | .ok reported => presentation.line (reported.document presentation.format)

/-- From a machine, an action fails or reports; in each of the formats for machines, it puts just that out. -/
def Ends (may : Reported → Prop) (action : Presentation → ExceptT Failure (StateM World) Unit) (world : World) :
    Prop :=
  ∃ result : Except Failure Reported, (∀ reported, result = .ok reported → may reported) ∧
    ∀ presentation, presentation.format.isJson = true →
      (outcome (action presentation) world).1 = result.map (fun _ => ()) ∧
      (outcome (action presentation) world).2.said = world.said ++ presentation.announced result

namespace Ends

variable {may : Reported → Prop} {world : World} {α : Type}

/-- What comes before a report fails, or hands on to what reports, and puts nothing out itself. -/
theorem bind {action : ExceptT Failure (StateM World) α}
    {next : α → Presentation → ExceptT Failure (StateM World) Unit}
    (calm : (outcome action world).2.said = world.said)
    (goes : ∀ value after, outcome action world = (.ok value, after) → Ends may (next value) after) :
    Ends may (fun presentation => action >>= fun value => next value presentation) world := by
  rcases ran : outcome action world with ⟨result, after⟩
  rw [ran] at calm
  cases result with
  | error failure =>
    refine ⟨.error failure, by simp, fun presentation _ => ?_⟩
    rw [outcome_bind, ran]
    exact ⟨rfl, calm.trans (String.append_empty).symm⟩
  | ok value =>
    obtain ⟨result, allowed, ends⟩ := goes value after ran
    refine ⟨result, allowed, fun presentation format => ?_⟩
    rw [outcome_bind, ran, ← calm]
    exact ends presentation format

/-- A failure puts nothing out. -/
theorem fail (failure : Failure) : Ends may (fun _ => throw failure) world :=
  ⟨.error failure, by simp, fun _ _ => ⟨rfl, (String.append_empty).symm⟩⟩

/-- A result that is put out is reported, if its value is what is reported; a remark may come before. -/
theorem putAfter {reported : Reported} (allowed : may reported) {view : Presentation → View}
    (same : ∀ presentation, (view presentation).json = reported.json)
    {before : Presentation → ExceptT Failure (StateM World) Unit}
    (calm : ∀ presentation, ∃ after, outcome (before presentation) world = (.ok (), after) ∧
      after.said = world.said) :
    Ends may (fun presentation => before presentation >>= fun _ => presentation.putView (view presentation))
      world := by
  refine ⟨.ok reported, ?_, fun presentation format => ?_⟩
  · rintro _ ⟨⟩
    exact allowed
  · obtain ⟨after, noted, said⟩ := calm presentation
    have text : (view presentation).text presentation.format = reported.document presentation.format := by
      unfold View.text Reported.document
      rw [same]
      rcases OutputFormat.isJson_iff.mp format with named | named <;> rw [named]
    simp only [outcome_bind, noted, Presentation.outcome_putView, Presentation.shown_said, text, said]
    exact ⟨rfl, rfl⟩

/-- A result that is put out is reported, if its value is what is reported. -/
theorem put {reported : Reported} (allowed : may reported) {view : Presentation → View}
    (same : ∀ presentation, (view presentation).json = reported.json) :
    Ends may (fun presentation => presentation.putView (view presentation)) world :=
  putAfter allowed same fun _ => ⟨world, outcome_pure () world, rfl⟩

end Ends

variable {fetch : Fetch (StateM World)} (silent : Placard.Silent fetch) (context : Context) {command : Command}
  {world : World}

namespace Context

/-- Loading what a command works on puts nothing out. -/
theorem calm_load (sources : Sources) (world : World) :
    (outcome (Context.load sources) world).2.said = world.said := by
  rw [outcome_load]

/-- Loading connections puts nothing out. -/
theorem calm_registry (context : Context) (world : World) :
    (outcome context.registry world).2.said = world.said := by
  rw [outcome_registry]

/-- Setting up the fetching of sources puts nothing out, and gives the fetcher that it is to give. -/
theorem calm_renderer (context : Context) (note : Option String) (world : World) :
    (outcome (context.renderer (Transport.connect fetch) note) world).2.said = world.said ∧
      ∀ renderer after, outcome (context.renderer (Transport.connect fetch) note) world = (.ok renderer, after) →
        renderer = ⟨fetch, context.budget, note⟩ := by
  rcases context.exists_renderer fetch world.disk with ⟨failure, fails⟩ | looks
  · rw [fails note world rfl]
    exact ⟨rfl, nofun⟩
  · rw [looks note world rfl]
    refine ⟨rfl, ?_⟩
    rintro _ _ ⟨⟩
    rfl

end Context

/-- Loading a template puts nothing out. -/
theorem TemplateChoice.calm_load (choice : TemplateChoice) (settings : Settings) (world : World) :
    (outcome (choice.load settings) world).2.said = world.said := by
  unfold load
  split
  · rfl
  · rw [outcome_bind, outcome_orFail, readText_run_eq]
    cases world.disk.readText _ <;> rfl
  · rfl

include silent in
/-- A template is filled, and the report on it is put out, perhaps with a remark before it. -/
theorem Command.ends_render (template : TemplateChoice) (explain : Bool) :
    Ends (Command.render template explain).Reports
      (fun presentation => runRender (Transport.connect fetch) context presentation template explain) world := by
  refine .bind (template.calm_load _ _) fun text loaded _ => ?_
  refine .bind (context.calm_registry _) fun registry read _ => ?_
  have set_ := @Context.calm_renderer fetch context (template.shownNote context.settings)
  refine .bind (set_ _).1 fun renderer ready made => ?_
  obtain rfl := (set_ read).2 renderer ready made
  refine .bind ?_ fun report filled _ => ?_
  · rw [outcome_lift]
    exact Silent.report silent ..
  · have allowed : (Command.render template explain).Reports (.report report) := trivial
    cases explain with
    | true => exact .putAfter allowed (fun _ => rfl) fun presentation =>
        ⟨_, Presentation.outcome_remark .., by unfold Presentation.noted; split <;> rfl⟩
    | false => exact .put allowed fun _ => rfl

/-- Connections are listed; where the format is for machines, an empty list is one too. -/
theorem Command.ends_list :
    Ends (Command.connections .list).Reports (fun presentation => runList context presentation) world := by
  refine .bind (context.calm_registry _) fun registry read _ => ?_
  obtain ⟨kind, looks⟩ := exists_looks_summarize read
  have listed : Looks (registry.toList.mapM Command.summarize) read
      (registry.toList.map fun connection => connection.summary (kind connection)) := Looks.mapM looks _
  have summaries : Ends (Command.connections .list).Reports (fun presentation =>
      registry.toList.mapM Command.summarize >>= fun summaries =>
        presentation.putView (ConnectionSummary.listView summaries)) read := by
    refine .bind (congrArg (fun ran => ran.2.said) listed) fun summaries _ _ => ?_
    have allowed : (Command.connections .list).Reports (.summaries summaries) := trivial
    exact .put allowed fun _ => rfl
  obtain ⟨result, allowed, ends⟩ := summaries
  refine ⟨result, allowed, fun presentation format => ?_⟩
  -- Only the grid for the eye is left out when there is nothing in it.
  have machine : (presentation.format == .table) = false := by
    rcases OutputFormat.isJson_iff.mp format with named | named <;> rw [named] <;> rfl
  dsimp only
  rw [machine, Bool.and_false]
  exact ends presentation format

/-- The connection that is found has the name that was asked for. -/
theorem Command.bind_find {may : Reported → Prop} {registry : Registry} {name : String}
    (sound : registry.Sound) {next : Connection → Presentation → ExceptT Failure (StateM World) Unit}
    (goes : ∀ connection, connection.name = name → Ends may (next connection) world) :
    Ends may (fun presentation => find registry name >>= fun connection => next connection presentation) world := by
  have found := outcome_find registry name world
  refine .bind ?_ fun connection after ran => ?_
  · rw [found]
    cases registry.get? name <;> rfl
  · rw [found] at ran
    cases held : registry.get? name with
    | none => simp [held] at ran
    | some _ =>
      rw [held] at ran
      cases ran
      exact goes connection (sound.get?_eq_some_iff.mp held).2

/-- Connections that were loaded are sound. -/
theorem Context.registry_sound {registry : Registry} {after : World}
    (loaded : outcome context.registry world = (.ok registry, after)) : registry.Sound := by
  rw [outcome_registry] at loaded
  cases read : Registry.loaded world.disk context.connectionsPath with
  | error error =>
    rw [read] at loaded
    cases loaded
  | ok held =>
    rw [read] at loaded
    cases loaded
    exact Registry.loaded_sound read

/-- One connection is shown. -/
theorem Command.ends_view (name : String) :
    Ends (Command.connections (.view name)).Reports (fun presentation => runView context presentation name)
      world := by
  refine .bind (context.calm_registry _) fun registry read loaded => ?_
  refine bind_find (context.registry_sound loaded) fun connection named => ?_
  obtain ⟨kind, looks⟩ := exists_looks_summarize read
  refine .bind (congrArg (fun ran => ran.2.said) (looks connection)) fun summary after made => ?_
  cases (looks connection).symm.trans made
  exact @Ends.put _ _ (.summary (connection.summary _)) named _ fun _ => rfl

include silent in
/-- One connection is tested. -/
theorem Command.ends_test (name : String) :
    Ends (Command.connections (.test name)).Reports
      (fun presentation => runTest (Transport.connect fetch) context presentation name) world := by
  refine .bind (context.calm_registry _) fun registry read loaded => ?_
  refine bind_find (context.registry_sound loaded) fun connection named => ?_
  have set_ := @Context.calm_renderer fetch context none
  refine .bind (set_ _).1 fun renderer ready made => ?_
  obtain rfl := (set_ read).2 renderer ready made
  refine .bind ?_ fun inspection seen _ => ?_
  · rw [outcome_lift]
    exact inspect_keeps World.said silent ..
  · have allowed : (Command.connections (.test name)).Reports (.inspection inspection name) := rfl
    exact .put allowed fun _ => rfl

/-- A place is shown. -/
theorem Command.ends_place (choice : PlaceChoice) :
    Ends (Command.place choice).Reports (fun presentation => runPlace context presentation choice) world := by
  unfold runPlace
  dsimp only
  split
  · rename_i placement _
    exact @Ends.put _ _ (.placement placement) trivial _ fun _ => rfl
  · exact .fail _

/-- The settings are shown. -/
theorem Command.ends_configView (sources : Sources) :
    Ends (Command.config .view).Reports (fun presentation => runConfigView sources presentation) world := by
  refine .bind (Context.calm_load sources _) fun context after _ => ?_
  exact @Ends.put _ _ (.settings context.settings context.settingsPath) trivial _ fun _ => rfl

/-- The paths of the files are shown. -/
theorem Command.ends_configPaths (sources : Sources) :
    Ends (Command.config .paths).Reports (fun presentation => runConfigPaths sources presentation) world := by
  refine .bind (by rw [outcome_environment]) fun environment here ran => ?_
  refine .bind (by rw [Settings.outcome_load]) fun settings loaded _ => ?_
  refine .bind (by rw [outcome_isThere]) fun settingsThere looked _ => ?_
  refine .bind (by rw [outcome_isThere]) fun connectionsThere done _ => ?_
  exact @Ends.put _ _ (.paths _) trivial _ fun _ => rfl

include silent in
/-- Every command that reports fails or reports, and puts nothing else out. -/
theorem Invocation.ends (reports : command.reports = true) (sources : Sources) (world : World) :
    Ends command.Reports
      (fun presentation => Invocation.run (Transport.connect fetch) ⟨command, sources, presentation⟩) world := by
  have loads {next : Context → Presentation → ExceptT Failure (StateM World) Unit}
      (goes : ∀ context world, Ends command.Reports (next context) world) :
      Ends command.Reports (fun presentation => Context.load sources >>= fun context => next context presentation)
        world :=
    .bind (Context.calm_load sources _) fun context after _ => goes context after
  cases command with
  | render template explain =>
    exact loads fun context world => Command.ends_render silent context template explain
  | connections command =>
    cases command with
    | list => exact loads fun context world => Command.ends_list context
    | view name => exact loads fun context world => Command.ends_view context name
    | test name => exact loads fun context world => Command.ends_test silent context name
    | _ => cases reports
  | place choice => exact loads fun context world => Command.ends_place context choice
  | config command =>
    cases command with
    | view => exact Command.ends_configView sources
    | paths => exact Command.ends_configPaths sources
    | init force => cases reports
  | _ => cases reports

/-! ### Watching -/

namespace Refresh

section

variable {m : Type → Type} [Monad m] [Machine m] {α : Type}

/-- Hands each outcome on as rounds do, and keeps those that were handed on. -/
def handed (refresh : Refresh m) (hand : Outcome → m (Option α)) : Nat → Job → m (List Outcome × Option α × Job)
  | 0, job => return ([], none, job)
  | more + 1, job => do
    let (outcome, job) ← refresh.next job
    match outcome with
    | none => return ([], none, job)
    | some outcome =>
      match ← hand outcome with
      | some answer => return ([outcome], some answer, job)
      | none =>
        let (others, ended) ← refresh.handed hand more job
        return (outcome :: others, ended)

/-- Keeping the outcomes makes no difference to the rounds. -/
theorem rounds_eq_handed [LawfulMonad m] (refresh : Refresh m) (hand : Outcome → m (Option α)) (count : Nat)
    (job : Job) : refresh.rounds hand count job = Prod.snd <$> refresh.handed hand count job := by
  induction count generalizing job with
  | zero => simp [rounds, handed]
  | succ more ih =>
    rw [rounds, handed, map_bind]
    refine congrArg (refresh.next job >>= ·) (funext fun found => ?_)
    obtain ⟨outcome, later⟩ := found
    cases outcome with
    | none => simp
    | some outcome =>
      simp only [map_bind]
      refine congrArg (hand outcome >>= ·) (funext fun answer => ?_)
      cases answer with
      | some answer => simp
      | none => simp [ih]

end

end Refresh

namespace Command

section

variable {m : Type → Type} [Monad m] [Machine m]

/-- Watches, and gives the outcomes that were handed on. -/
def watched (connect : Connect m) (context : Context) (presentation : Presentation) (choice : WatchChoice) :
    ExceptT Failure m (List Outcome) := do
  let template ← choice.template.load context.settings
  let registry := context.withSecrets (← context.registry)
  let renderer ← context.renderer connect (choice.template.shownNote context.settings)
  let interval := choice.interval.getD context.settings.refreshInterval
  let refresh := Refresh.make renderer template interval (return .ofVariables context.environment)
    (some (reload context))
  let (outcomes, failure, job) ← ExceptT.lift
    (refresh.handed (emit presentation choice.out) choice.rounds (.spawn (.ofRegistry registry)))
  let _ ← ExceptT.lift (refresh.proceed job.cancel)
  match failure with
  | some failure => throw failure
  | none => return outcomes

omit [Machine m] in
/-- Changing what an action gives comes to the same with room for failure. -/
theorem lift_map [LawfulMonad m] {α β ε : Type} (change : α → β) (action : m α) :
    (ExceptT.lift (change <$> action) : ExceptT ε m β) = change <$> ExceptT.lift action := by
  apply ExceptT.ext
  simp

/-- Giving the outcomes makes no difference to watching. -/
theorem runWatch_eq [LawfulMonad m] (connect : Connect m) (context : Context) (presentation : Presentation)
    (choice : WatchChoice) :
    runWatch connect context presentation choice =
      (fun _ => ()) <$> watched connect context presentation choice := by
  simp only [runWatch, watched, map_bind]
  refine congrArg (_ >>= ·) (funext fun template => ?_)
  refine congrArg (_ >>= ·) (funext fun registry => ?_)
  refine congrArg (_ >>= ·) (funext fun renderer => ?_)
  rw [Refresh.rounds_eq_handed, lift_map, bind_map_left]
  refine congrArg (_ >>= ·) (funext fun found => ?_)
  obtain ⟨outcomes, failure, job⟩ := found
  refine congrArg (_ >>= ·) (funext fun _ => ?_)
  cases failure with
  | none => simp
  | some failure =>
    apply ExceptT.ext
    simp

end

end Command

/-- Where sources put nothing out, every registry can be asked without putting anything out. -/
theorem Silent.harmless (silent : Silent fetch) (budget : Duration) (registry : Registry) (said : String) :
    registry.Harmless fetch budget (·.said = said) :=
  fun connection _ world same => ⟨trivial, (inspect_keeps World.said silent budget connection world).trans same⟩

/-- The refresh of a watch puts nothing out itself. -/
theorem Silent.refresh (silent : Silent fetch) (note : Option String) (template : String) (interval : Duration)
    (said : String) :
    (Refresh.make ⟨fetch, context.budget, note⟩ template interval (return .ofVariables context.environment)
      (some (Command.reload context))).Harmless (·.said = said) where
  consult := by
    intro world same
    refine ⟨fun registry _ => silent.harmless _ registry said, ?_⟩
    show ((Command.reload context : StateM World _).run world).2.said = said
    rw [Command.reload, StateT.run_bind, Registry.load_run_eq, id_bind_eq]
    cases Registry.loaded world.disk context.connectionsPath <;> exact same
  facts := .pure trivial
  pause _ _ same := ⟨trivial, same⟩

/-- The lines that outcomes take up on the output. -/
def Presentation.stream (presentation : Presentation) (outcomes : List Outcome) : String :=
  String.join (outcomes.map fun outcome => presentation.line (outcome.document presentation))

/-- Handing an outcome on puts its document out. -/
theorem Command.emit_run (presentation : Presentation) (outcome : Outcome) (world : World) :
    (Command.emit presentation none outcome : StateM World (Option Failure)).run world =
      (none, presentation.shown (outcome.document presentation) world) := by
  have put : (presentation.put (outcome.document presentation) : StateM World Unit).run world =
      ((), presentation.shown (outcome.document presentation) world) := by
    unfold Presentation.put Presentation.shown
    split <;> rfl
  rw [Command.emit, StateT.run_bind, put]
  rfl

namespace Refresh

variable {refresh : Refresh (StateM World)} (presentation : Presentation)

/-- Rounds put one document out for each outcome that they hand on, and nothing else. -/
theorem handed_said (harmless : ∀ said, refresh.Harmless (·.said = said))
    (safe : ∀ shared said, refresh.Shares (·.said = said) shared) (count : Nat) (job : Job) (world : World) :
    let found := (refresh.handed (Command.emit presentation none) count job).run world
    found.1.2.1 = none ∧ found.2.said = world.said ++ presentation.stream found.1.1 := by
  -- Each round begins with what the rounds before have put out.
  induction count generalizing job world with
  | zero => exact ⟨rfl, (String.append_empty).symm⟩
  | succ more ih =>
    have calm := ((harmless world.said).next (safe job.shared _) world rfl).2
    rw [handed, StateT.run_bind]
    rcases ran : (refresh.next job).run world with ⟨⟨outcome, later⟩, after⟩
    rw [ran] at calm
    rw [id_bind_eq]
    cases outcome with
    | none => exact ⟨rfl, calm.trans (String.append_empty).symm⟩
    | some outcome =>
      obtain ⟨goes, said⟩ := ih later (presentation.shown (outcome.document presentation) after)
      simp only [id_bind_eq, StateT.run_bind, Command.emit_run, StateT.run_pure, id_pure_eq]
      refine ⟨goes, said.trans ?_⟩
      rw [Presentation.shown_said, calm]
      simp [Presentation.stream, String.append_assoc]

end Refresh

/-- An action puts out the documents of the outcomes that it gives, and nothing else. -/
def Streams (presentation : Presentation) (action : ExceptT Failure (StateM World) (List Outcome)) (world : World) :
    Prop :=
  (outcome action world).2.said = world.said ++
    presentation.stream ((outcome action world).1.toOption.getD [])

/-- What comes before documents fails, or hands on to what puts them out, and puts nothing out itself. -/
theorem Streams.bind {α : Type} {presentation : Presentation} {action : ExceptT Failure (StateM World) α}
    {next : α → ExceptT Failure (StateM World) (List Outcome)}
    (calm : (outcome action world).2.said = world.said)
    (goes : ∀ value after, outcome action world = (.ok value, after) → Streams presentation (next value) after) :
    Streams presentation (action >>= next) world := by
  unfold Streams
  rw [outcome_bind]
  rcases ran : outcome action world with ⟨result, after⟩
  rw [ran] at calm
  cases result with
  | error failure => exact calm.trans (String.append_empty).symm
  | ok value => exact calm ▸ goes value after ran

/-- Rounds put one document out for each outcome that they hand on, and the end of their job puts nothing out. -/
theorem Refresh.streams {refresh : Refresh (StateM World)} (presentation : Presentation)
    (harmless : ∀ said, refresh.Harmless (·.said = said))
    (safe : ∀ shared said, refresh.Shares (·.said = said) shared) (count : Nat) (job : Job) :
    Streams presentation (do
      let (outcomes, failure, job) ← ExceptT.lift (refresh.handed (Command.emit presentation none) count job)
      let _ ← ExceptT.lift (refresh.proceed job.cancel)
      match failure with
      | some failure => throw failure
      | none => return outcomes) world := by
  obtain ⟨goes, said⟩ := refresh.handed_said presentation harmless safe count job world
  rcases ran : (refresh.handed (Command.emit presentation none) count job).run world with
    ⟨⟨outcomes, failure, left⟩, after⟩
  rw [ran] at goes said
  obtain rfl : failure = none := goes
  have calm := ((harmless after.said).proceed (safe left.cancel.shared _) after rfl).2
  simp only [Streams, outcome_bind, outcome_lift, ran, outcome_pure]
  exact calm.trans said

/-- A watch without a file puts out one document for each outcome that it hands on, and nothing else. -/
theorem Command.watched_streams (silent : Silent fetch) (presentation : Presentation) {choice : WatchChoice}
    (out : choice.out = none) :
    Streams presentation (watched (Transport.connect fetch) context presentation choice) world := by
  refine .bind (choice.template.calm_load _ _) fun text _ _ => ?_
  refine .bind (context.calm_registry _) fun registry read _ => ?_
  have set_ := @Context.calm_renderer fetch context (choice.template.shownNote context.settings)
  refine .bind (set_ _).1 fun renderer ready made => ?_
  obtain rfl := (set_ read).2 renderer ready made
  have harmless := silent.refresh context (choice.template.shownNote context.settings) text
    (choice.interval.getD context.settings.refreshInterval)
  simp only [out]
  exact Refresh.streams presentation harmless (fun shared => silent.harmless _ _) _ _

/-! ### The whole program -/

/-- A command line that is understood ends as its command ends, and puts nothing more on the output. -/
theorem runProgram_said (connect : Connect (StateM World)) {words : List String} {invocation : Invocation}
    (read : Invocation.read world.environment words = .ok invocation) :
    let ended := outcome (invocation.run connect) world
    ((runProgram connect words).run world).1 = (Invocation.ending ended.1).exitCode ∧
      ((runProgram connect words).run world).2.said = ended.2.said := by
  intro ended
  rw [runProgram_run, runWords_run, read]
  refine ⟨rfl, ?_⟩
  -- Neither a failure nor a success has an answer.
  show ended.2.said ++ (Invocation.ending ended.1).answer = ended.2.said
  cases ended.1 <;> exact String.append_empty

/-- A watch ends as it does when its outcomes are given, and does the same. -/
theorem outcome_watch (connect : Connect (StateM World)) (sources : Sources) (presentation : Presentation)
    (choice : WatchChoice) (world : World) :
    let handed := outcome (Context.load sources >>= fun context =>
      Command.watched connect context presentation choice) world
    outcome (Invocation.run connect ⟨.watch choice, sources, presentation⟩) world =
      (handed.1.map fun _ => (), handed.2) := by
  intro handed
  have same : Invocation.run connect ⟨.watch choice, sources, presentation⟩ =
      (Context.load sources >>= fun context => Command.watched connect context presentation choice) >>=
        fun _ => pure () := by
    rw [Invocation.run, bind_pure_comp, map_bind]
    exact congrArg (_ >>= ·) (funext fun context => Command.runWatch_eq ..)
  rw [same, outcome_bind]
  show _ = ((outcome _ world).1.map _, (outcome _ world).2)
  rcases outcome (Context.load sources >>= fun context => Command.watched connect context presentation choice)
    world with ⟨result, after⟩
  cases result <;> rfl

/-- In a format for machines, outcomes take up one line each. -/
theorem Presentation.stream_eq {presentation : Presentation} (loud : presentation.quiet = false)
    (format : presentation.format.isJson = true) (outcomes : List Outcome) :
    presentation.stream outcomes =
      String.join (outcomes.map fun made => (Reported.outcome made).json.compact ++ "\n") := by
  refine congrArg String.join (List.map_congr_left fun made _ => ?_)
  have text : made.document presentation = (Reported.outcome made).document .jsonCompact := by
    unfold Outcome.document
    rcases OutputFormat.isJson_iff.mp format with named | named <;> rw [named] <;> rfl
  rw [text]
  simp only [line, loud, Reported.document_ne, Bool.false_or, beq_iff_eq, if_false]
  rfl

/-- What the program puts out on an empty machine, when it fills a template with a line break, a quotation mark
and a control character. -/
def brokenSaid (words : List String) : String :=
  ((runProgram (Transport.connect tokenFetch)
    (["--config", "/c.toml", "--output"] ++ words ++ ["--template", "a\n\"\x01"])).run
    ⟨⟨[], []⟩, [], ⟨0⟩, "", ""⟩).2.said

end Placard
