import Placard.Proofs.Command.Outcome
import Placard.Proofs.Settings.Layers
import Placard.Proofs.Settings.Timeout

/-! The time that a source may take: however it is given, it spoils nothing else that is loaded. -/

namespace Placard

/-! ### What variables give under a key -/

namespace Variable

open Given (joined)

/-- The name of a variable leads to a key of the settings, or to something further inside. -/
def leadsTo (key : String) (entry : String × String) : Bool :=
  (keys? entry.1).bind List.head? == some key

/-- What variables give under a key, each one put over those before it. -/
def givenUnder (key : String) (environment : List (String × String)) : Option Given :=
  (environment.filter (leadsTo key)).foldl (fun lower entry =>
    joined lower (some (nest (readValue entry.2) ((keys? entry.1).getD []).tail))) none

/-- The keys that a variable leads to are never none at all. -/
theorem keys?_ne_nil {name : String} {keys : List String} (named : keys? name = some keys) :
    keys ≠ [] := by
  unfold keys? at named
  simp only [Option.ite_none_right_eq_some, Option.ite_none_left_eq_some] at named
  obtain ⟨-, -, same⟩ := named
  rw [← Option.some.inj same]
  simp [Text.pieces_ne_nil]

/-- Under each key, variables give what those of them that lead to it give. -/
theorem layer_eq (environment : List (String × String)) :
    ∃ items, layer environment = .table .environment items ∧ (items.map (·.1)).Nodup ∧
      ∀ key, items.lookup key = givenUnder key environment := by
  -- The induction takes the variables from the last one on, as the last one is uppermost.
  induction environment using List.reverseRecOn with
  | nil => exact ⟨[], rfl, List.nodup_nil, fun _ => rfl⟩
  | append_singleton others entry ih =>
    obtain ⟨name, text⟩ := entry
    obtain ⟨items, table, distinct, under⟩ := ih
    rw [layer_concat]
    cases named : keys? name with
    | none =>
      refine ⟨items, table, distinct, fun key => ?_⟩
      have passed : leadsTo key (name, text) = false := by simp [leadsTo, named]
      rw [givenUnder, List.filter_append, List.filter_singleton, passed, under, givenUnder]
      simp
    | some keys =>
      obtain ⟨step, steps, rfl⟩ := List.exists_cons_of_ne_nil (keys?_ne_nil named)
      refine ⟨Given.overlaidItems items [(step, nest (readValue text) steps)], ?_,
        Given.nodup_overlaidItems distinct _, fun key => ?_⟩
      · show (layer others).overlaid (nest (readValue text) (step :: steps)) = _
        rw [table, nest, Given.overlaid]
      · have single : ([(step, nest (readValue text) steps)].map (·.1)).Nodup :=
          List.nodup_singleton step
        rw [Given.lookup_overlaidItems single, under, givenUnder, givenUnder, List.filter_append,
          List.filter_singleton]
        by_cases here : key = step
        · subst here
          have leads : leadsTo key (name, text) = true := by simp [leadsTo, named]
          rw [leads, cond_true, List.foldl_concat, List.lookup_cons_self, named]
          rfl
        · have passed : leadsTo key (name, text) = false := by
            simpa [leadsTo, named] using Ne.symm here
          rw [passed]
          simp [List.lookup_cons, beq_false_of_ne here, joined]

/-- What variables give under a key depends on the variables that lead to it only. -/
theorem givenUnder_congr {key other : String} (different : other ≠ key)
    {environment environment' : List (String × String)}
    (same : environment'.filter (!leadsTo key ·) = environment.filter (!leadsTo key ·)) :
    givenUnder other environment' = givenUnder other environment := by
  -- A variable leads to one key at most, so those for the other key are among the rest.
  have among (entries : List (String × String)) :
      entries.filter (leadsTo other) = (entries.filter (!leadsTo key ·)).filter (leadsTo other) := by
    rw [List.filter_filter]
    refine List.filter_congr fun entry _ => ?_
    cases leads : leadsTo other entry with
    | false => rfl
    | true =>
      simp only [leadsTo, beq_iff_eq] at leads ⊢
      simp [leads, different]
  rw [givenUnder, givenUnder, among environment', same, ← among]

end Variable

/-! ### The seconds in layers -/

namespace Given

/-- The seconds are those of the upper value, whatever it is put over. -/
theorem toTimeout_overlaid (lower upper : Given) :
    (lower.overlaid upper).toTimeout = upper.toTimeout := by
  -- Only tables are joined, and a table gives the usual seconds like the joined one.
  cases upper with
  | scalar layer value => rw [overlaid_scalar]
  | list layer items =>
    rw [overlaid]
    rintro _ _ ⟨⟩
  | table layer items =>
    cases lower <;> simp only [overlaid, toTimeout]

/-- What is read in two layers is what is read in the upper one, where it gives a value. -/
theorem map_joined {α : Type} {read : Given → α} (same : ∀ lower upper, read (overlaid lower upper) = read upper)
    (lower upper : Option Given) : (joined lower upper).map read = (upper.map read).or (lower.map read) := by
  cases upper with
  | none => cases lower <;> rfl
  | some upper =>
    cases lower with
    | none => rfl
    | some lower => exact congrArg some (same lower upper)

/-- A field of a table is read from the value of its key. -/
theorem Fields.get?_congr {α : Type} {items items' : List (String × Given)} (place : Nat) {key : String}
    (same : items'.lookup key = items.lookup key) (read : Given → Except GivenProblem α) :
    (keyed items').get? place key read = (keyed items).get? place key read := by
  rw [get?, get?]
  simp only [same]

/-- Settings are read from the values of their keys, and any value gives seconds. -/
theorem toSettings_timeout {layer layer' : Layer} {items items' : List (String × Given)}
    (same : ∀ key, key ≠ "timeout_secs" → items'.lookup key = items.lookup key) :
    (table layer' items').toSettings = (table layer items).toSettings.map fun settings =>
      { settings with timeoutSeconds :=
          ((items'.lookup "timeout_secs").map toTimeout).getD usualTimeout.toUInt64 } := by
  -- The other seven fields are read from the same values, and fail together where one of them does.
  have seconds (entries : List (String × Given)) :
      (Fields.keyed entries).get? 0 "timeout_secs" (fun given => .ok given.toTimeout) =
        .ok ((entries.lookup "timeout_secs").map toTimeout) := by
    rw [Fields.get?]
    cases entries.lookup "timeout_secs" <;> rfl
  have other {α : Type} (place : Nat) {key : String} (different : key ≠ "timeout_secs")
      (read : Given → Except GivenProblem α) :
      (Fields.keyed items').get? place key read = (Fields.keyed items).get? place key read :=
    Fields.get?_congr place (same key different) read
  simp only [toSettings, fields, ok_bind, seconds, other _ (show "connections_file" ≠ _ by decide),
    other _ (show "http" ≠ _ by decide), other _ (show "note" ≠ _ by decide),
    other _ (show "placement" ≠ _ by decide), other _ (show "refresh_interval_minutes" ≠ _ by decide),
    other _ (show "target" ≠ _ by decide), other _ (show "template" ≠ _ by decide)]
  show _ = (fun settings : Settings => _) <$> _
  simp only [map_bind, map_pure]
  rfl

end Given

namespace Settings

open Given (joined)

/-- What is usually given under a key. -/
def usualUnder (key : String) : Option Given :=
  match usual.toGiven with
  | .table _ items => items.lookup key
  | _ => none

/-- Settings are made of what is given under each key: usually, by a file, and by variables. -/
theorem ofLayers_keys (below : Layer) {file : List (String × Given)} (apart : (file.map (·.1)).Nodup)
    (environment : List (String × String)) :
    ∃ items, ofLayers (.table below file) (Variable.layer environment) =
        (Given.table .environment items).toSettings ∧
      ∀ key, items.lookup key =
        joined (joined (usualUnder key) (file.lookup key)) (Variable.givenUnder key environment) := by
  obtain ⟨held, table, distinct, under⟩ := Variable.layer_eq environment
  obtain ⟨items, usual_⟩ : ∃ items, usual.toGiven = .table .usual items := ⟨_, rfl⟩
  -- Under every key, the three layers are joined from the lowest one up.
  refine ⟨Given.overlaidItems (Given.overlaidItems items file) held, ?_, fun key => ?_⟩
  · rw [ofLayers, usual_, table]
    simp only [Given.overlaid]
  · rw [Given.lookup_overlaidItems distinct, Given.lookup_overlaidItems apart, under, usualUnder, usual_]

end Settings

/-! ### Settings on a machine -/

/-- A document that is read is a table in which no key comes twice. -/
theorem Toml.parse_table {text : String} {whole : Toml} (read : parse text = .ok whole) :
    ∃ items, whole = .table items ∧ (items.map (·.1)).Nodup := by
  have distinct := parse_distinct read
  obtain ⟨document, lines, rest⟩ := bind_eq_ok_iff.mp (mapError_eq_ok_iff.mp read)
  split at rest
  · rename_i finished
    cases rest
    obtain ⟨items, -, rfl⟩ := Option.map_eq_some_iff.mp finished
    cases distinct with
    | table apart inside => exact ⟨_, rfl, apart⟩
  · cases rest

/-- What a settings file holds is a table in which no key comes twice. -/
theorem Disk.Holds.table {disk : Disk} {path : String} {whole : Toml} (holds : disk.Holds path whole) :
    ∃ items, whole = .table items ∧ (items.map (·.1)).Nodup := by
  cases holds with
  | missing => exact ⟨[], rfl, List.nodup_nil⟩
  | file first bytes parsed => exact Toml.parse_table parsed

/-- The values of a settings file have the keys of the file. -/
theorem Given.nodup_ofTomlItems (layer : Layer) {items : List (String × Toml)}
    (distinct : (items.map (·.1)).Nodup) : ((ofTomlItems layer items).map (·.1)).Nodup := by
  simpa [ofTomlItems_eq, Function.comp_def] using distinct

/-- The seconds that variables give, or else a settings file, or else the usual ones. -/
def givenSeconds (environment : List (String × String)) (whole : Toml) : UInt64 :=
  (((Variable.givenUnder "timeout_secs" environment).map Given.toTimeout).or
    ((whole.at? ["timeout_secs"]).map fun value => (Given.ofToml .usual value).toTimeout)).getD
      usualTimeout.toUInt64

/-- The seconds of a value in a settings file do not depend on the file. -/
theorem Given.toTimeout_ofToml (layer layer' : Layer) (value : Toml) :
    (ofToml layer value).toTimeout = (ofToml layer' value).toTimeout := by
  cases value <;> simp only [ofToml, toTimeout]

/-- Two starts of the program with different ways to give the seconds of a source, and all else the same.

The option may differ, variables that lead to the seconds, and what the settings file has under their key. -/
structure SameButTimeout (world world' : World) (sources sources' : Sources) (whole whole' : Toml) :
    Prop where
  files : sources' = { sources with timeout := sources'.timeout }
  environment : world'.environment.filter (!Variable.leadsTo "timeout_secs" ·) =
    world.environment.filter (!Variable.leadsTo "timeout_secs" ·)
  working : world'.disk.working = world.disk.working
  found : world'.disk.settingsFile? (sources.settingsPath world.environment) =
    world.disk.settingsFile? (sources.settingsPath world.environment)
  holds : world.disk.Holds (sources.settingsPath world.environment) whole
  holds' : world'.disk.Holds (sources.settingsPath world.environment) whole'
  items : ∀ key, key ≠ "timeout_secs" → whole'.at? [key] = whole.at? [key]

/-- The ways to give seconds as a text: by the option, or else by the last of the variables, or else in the
settings file.

A variable is read by a grammar, which takes a text that begins with a quotation mark out of the marks. -/
inductive GivesTimeout (sources : Sources) (environment : List (String × String)) (whole : Toml)
    (text : String) : Prop
  | option (given : sources.timeout = some text)
  | variable_ {name : String} (silent : sources.timeout = none)
      (last : (environment.filter (Variable.leadsTo "timeout_secs")).getLast? = some (name, text))
      (named : Variable.keys? name = some ["timeout_secs"]) (unquoted : Variable.Unquoted text)
  | file (silent : sources.timeout = none)
      (unset : environment.filter (Variable.leadsTo "timeout_secs") = [])
      (found : whole.at? ["timeout_secs"] = some (.text text))

/-- A variable that gives no setting is the same, whatever variables give the seconds. -/
theorem lookup_of_filter {environment environment' : List (String × String)}
    (same : environment'.filter (!Variable.leadsTo "timeout_secs" ·) =
      environment.filter (!Variable.leadsTo "timeout_secs" ·)) {name : String}
    (other : Variable.keys? name = none) : environment'.lookup name = environment.lookup name := by
  -- No entry of that name is left out, so it is found where it was found before.
  have kept (value : String) : (!Variable.leadsTo "timeout_secs" (name, value)) = true := by
    simp [Variable.leadsTo, other]
  rw [← Keyed.lookup_filter (!Variable.leadsTo "timeout_secs" ·) kept environment', same,
    Keyed.lookup_filter _ kept]

/-- The settings file is looked for at the same path, whatever variables give the seconds. -/
theorem settingsPath_of_filter {environment environment' : List (String × String)}
    (same : environment'.filter (!Variable.leadsTo "timeout_secs" ·) =
      environment.filter (!Variable.leadsTo "timeout_secs" ·)) (sources : Sources) :
    sources.settingsPath environment' = sources.settingsPath environment := by
  rw [Sources.settingsPath, Sources.settingsPath, usualSettingsPath, usualSettingsPath,
    lookup_of_filter same rfl, lookup_of_filter same rfl]

namespace SameButTimeout

variable {world world' : World} {sources sources' : Sources} {whole whole' : Toml}

/-- The path of the settings file is the same. -/
theorem settingsPath (same : SameButTimeout world world' sources sources' whole whole') :
    sources'.settingsPath world'.environment = sources.settingsPath world.environment := by
  rw [same.files, ← settingsPath_of_filter same.environment]
  rfl

/-- The loaded settings are the same but for the seconds. -/
theorem loaded (same : SameButTimeout world world' sources sources' whole whole') :
    Settings.loaded world' (sources.settingsPath world.environment) =
      (Settings.loaded world (sources.settingsPath world.environment)).map fun settings =>
        { settings with timeoutSeconds := givenSeconds world'.environment whole' } := by
  obtain ⟨items, rfl, apart⟩ := same.holds.table
  obtain ⟨items', rfl, apart'⟩ := same.holds'.table
  -- Both files are given by the same layer, so that their other values are the same too.
  obtain ⟨below, layer⟩ : ∃ below,
      world.disk.settingsLayer (sources.settingsPath world.environment) = below := ⟨_, rfl⟩
  have layer' : world'.disk.settingsLayer (sources.settingsPath world.environment) = below := by
    rw [← layer, Disk.settingsLayer, Disk.settingsLayer, same.found, same.working]
  have at_ (entries : List (String × Toml)) (key : String) :
      (Toml.table entries).at? [key] = entries.lookup key := by
    simp [Toml.at?]
  obtain ⟨made, settings, under⟩ := Settings.ofLayers_keys below (Given.nodup_ofTomlItems below apart)
    world.environment
  obtain ⟨made', settings', under'⟩ := Settings.ofLayers_keys below (Given.nodup_ofTomlItems below apart')
    world'.environment
  have others (key : String) (different : key ≠ "timeout_secs") : made'.lookup key = made.lookup key := by
    have same_ := same.items key different
    rw [at_, at_] at same_
    rw [under, under', Given.lookup_ofTomlItems, Given.lookup_ofTomlItems, same_,
      Variable.givenUnder_congr different same.environment]
  have seconds : ((made'.lookup "timeout_secs").map Given.toTimeout).getD usualTimeout.toUInt64 =
      givenSeconds world'.environment (.table items') := by
    have file (value : Toml) := Given.toTimeout_ofToml below .usual value
    rw [under', Given.map_joined Given.toTimeout_overlaid, Given.map_joined Given.toTimeout_overlaid,
      Given.lookup_ofTomlItems, Option.map_map, givenSeconds, at_]
    simp only [Function.comp_def, file]
    cases Variable.givenUnder "timeout_secs" world'.environment <;> cases items'.lookup "timeout_secs" <;> rfl
  rw [Settings.loaded, Settings.loaded, same.holds.givenFile_eq, same.holds'.givenFile_eq, layer, layer',
    Given.ofToml, Given.ofToml]
  simp only []
  rw [settings, settings', Given.toSettings_timeout others, seconds]
  cases (Given.table .environment made).toSettings <;> rfl

end SameButTimeout

/-- A text that is given gives its seconds, unless the option gives others. -/
theorem GivesTimeout.seconds {sources : Sources} {environment : List (String × String)} {whole : Toml}
    {text : String} (gives : GivesTimeout sources environment whole text) (settings : Settings)
    (held : settings.timeoutSeconds = givenSeconds environment whole) :
    sources.budget settings = .ofSeconds (readTimeout text) := by
  -- Seconds within the bounds of a word come out of it as they went in, and are never zero.
  have word (seconds : (readTimeout text).toUInt64 = givenSeconds environment whole) :
      settings.timeout = .ofSeconds (readTimeout text) := by
    obtain ⟨positive, within⟩ := readTimeout_bounds text
    have whole_ : (readTimeout text).toUInt64.toNat = readTimeout text :=
      UInt64.toNat_ofNat_of_lt (Nat.lt_succ_of_le within)
    have some_ : ((readTimeout text).toUInt64 == 0) = false := by
      rw [beq_eq_false_iff_ne, ne_eq, ← UInt64.toNat_inj, whole_]
      exact Nat.ne_of_gt positive
    rw [Settings.timeout, held, ← seconds, some_, whole_]
    rfl
  cases gives with
  | option given => rw [Sources.budget, given]
  | @variable_ name silent last named unquoted =>
    rw [Sources.budget, silent]
    apply word
    obtain ⟨before, all⟩ := List.getLast?_eq_some_iff.mp last
    rw [givenSeconds, Variable.givenUnder, all, List.foldl_concat, Given.map_joined Given.toTimeout_overlaid, named]
    exact (Variable.toTimeout_readValue unquoted).symm
  | file silent unset found =>
    rw [Sources.budget, silent]
    apply word
    rw [givenSeconds, Variable.givenUnder, unset, found]
    simp only [List.foldl_nil, Option.map_none, Option.none_or, Option.map_some, Option.getD_some,
      Given.ofToml, Given.toTimeout]

/-- A source may take one second at least, whatever is given. -/
theorem Sources.one_le_budget (sources : Sources) (settings : Settings) :
    1_000_000_000 ≤ (sources.budget settings).nanoseconds := by
  have seconds {count : Nat} (positive : 1 ≤ count) :
      1_000_000_000 ≤ (Duration.ofSeconds count).nanoseconds := by
    rw [Duration.ofSeconds]
    simp only []
    omega
  rw [Sources.budget]
  split
  · exact seconds (readTimeout_bounds _).1
  · rw [Settings.timeout]
    apply seconds
    split
    · decide
    · rename_i nonzero
      have some_ : settings.timeoutSeconds.toNat ≠ 0 := by
        intro zero
        apply nonzero
        rw [beq_iff_eq, ← UInt64.toNat_inj, zero]
        rfl
      omega

namespace Context

/-- Whatever is given for the seconds of a source, the rest is loaded as it would be without, and a source
may take a second at least; a text gives the same seconds in each of the ways to give them. -/
theorem load_budget :
    (∀ (sources : Sources) (world after : World) (context : Context),
      outcome (load sources) world = (.ok context, after) →
        1_000_000_000 ≤ context.budget.nanoseconds) ∧
    ∀ (world world' : World) (sources sources' : Sources) (whole whole' : Toml) (context : Context),
      SameButTimeout world world' sources sources' whole whole' → Looks (load sources) world context →
        ∃ context', Looks (load sources') world' context' ∧
          context'.settings =
            { context.settings with timeoutSeconds := context'.settings.timeoutSeconds } ∧
          context'.settingsPath = context.settingsPath ∧
          context'.connectionsPath = context.connectionsPath ∧
          ∀ text seconds, GivesTimeout sources' world'.environment whole' text →
            GivesSeconds text seconds → context'.budget = .ofSeconds seconds := by
  constructor
  · intro sources world after context found
    rw [outcome_load] at found
    cases loaded : Settings.loaded world (sources.settingsPath world.environment) with
    | error error =>
      rw [loaded] at found
      cases found
    | ok settings =>
      rw [loaded] at found
      cases found
      exact sources.one_le_budget settings
  · intro world world' sources sources' whole whole' context same found
    obtain ⟨settings, loaded, rfl⟩ := looks_load_iff.mp found
    have again := same.loaded
    rw [loaded, ← same.settingsPath] at again
    refine ⟨_, looks_load_iff.mpr ⟨_, again, rfl⟩, rfl, same.settingsPath, ?_, ?_⟩
    · -- The file of connections is named by the command line or by other settings.
      show sources'.connectionsPath _ _ = sources.connectionsPath _ _
      rw [same.settingsPath, same.files]
      rfl
    · intro text seconds gives meant
      rw [← (readTimeout_eq_iff text seconds).mpr meant]
      exact gives.seconds _ rfl

/-- A world whose settings file gives a text for the seconds, and nothing else. -/
def timeoutWorld (text : String) (environment : List (String × String)) : World :=
  ⟨⟨[(["config.toml"], .file (Text.bytes (Toml.documentText
    [Settings.textLine "timeout_secs" text Settings.timeoutKey_bare] [])))], []⟩, environment, ⟨0⟩, "", ""⟩

/-- The settings file of such a world is found in the root directory. -/
theorem timeoutWorld_found (text : String) (environment : List (String × String)) :
    (timeoutWorld text environment).disk.settingsFile? "config.toml" = some "/config.toml" :=
  (Settings.settingsFile?_root rfl).trans rfl

/-- The settings file of such a world holds the text. -/
theorem timeoutWorld_holds (text : String) (environment : List (String × String)) :
    (timeoutWorld text environment).disk.Holds "config.toml" (.table [("timeout_secs", .text text)]) := by
  have parsed : Toml.parse (.ofList (Toml.documentText
      [Settings.textLine "timeout_secs" text Settings.timeoutKey_bare] [])) = .ok (.table [("timeout_secs", .text text)]) :=
    Toml.parse_documentText (by simp) (by simp)
  refine .file (timeoutWorld_found text environment) ?_ parsed
  rw [String.toList_ofList]
  rfl

/-- Worlds with such files differ in their seconds only, if none of their variables gives anything else. -/
theorem timeoutWorld_same (text text' : String) (environment environment' : List (String × String))
    (only : environment.filter (!Variable.leadsTo "timeout_secs" ·) = [])
    (only' : environment'.filter (!Variable.leadsTo "timeout_secs" ·) = []) (timeout timeout' : Option String) :
    SameButTimeout (timeoutWorld text environment) (timeoutWorld text' environment')
      { settings := some "config.toml", timeout } { settings := some "config.toml", timeout := timeout' }
      (.table [("timeout_secs", .text text)]) (.table [("timeout_secs", .text text')]) where
  files := rfl
  environment := only'.trans only.symm
  working := rfl
  found := (timeoutWorld_found text' environment').trans (timeoutWorld_found text environment).symm
  holds := timeoutWorld_holds text environment
  holds' := timeoutWorld_holds text' environment'
  items := by
    intro key different
    simp [Toml.at?, List.lookup_cons, beq_false_of_ne different]

/-- Seven seconds, written with a sign, zeros and blanks, are the same as an option, as a variable and in the
settings file; a list in the place of seconds stands for the usual ones. -/
theorem load_budget_seven :
    (∃ context, Looks (load { settings := some "config.toml", timeout := some "+007" })
      (timeoutWorld "9" []) context ∧ context.budget = .ofSeconds 7) ∧
    (∃ context, Looks (load { settings := some "config.toml" })
      (timeoutWorld "9" [("WALLINFO_TIMEOUT_SECS", " +007 ")]) context ∧ context.budget = .ofSeconds 7) ∧
    (∃ context, Looks (load { settings := some "config.toml" }) (timeoutWorld "+007" []) context ∧
      context.budget = .ofSeconds 7) ∧
    (∃ context, Looks (load { settings := some "config.toml" })
      (timeoutWorld "9" [("WALLINFO_TIMEOUT_SECS", "[7]")]) context ∧ context.budget = .ofSeconds 5) := by
  have base : Looks (load { settings := some "config.toml" }) (timeoutWorld "9" [])
      (Sources.context { settings := some "config.toml" } [] { timeoutSeconds := 9 }) := by
    refine looks_load_iff.mpr ⟨_, ?_, rfl⟩
    show Settings.loaded (timeoutWorld "9" []) "config.toml" = _
    rw [Settings.loaded, (timeoutWorld_holds "9" []).givenFile_eq]
    rfl
  have seven (text : String) (inner : Text.inner text.toList = ['+', '0', '0', '7']) :
      GivesSeconds text 7 :=
    .inl ⟨⟨['+'], 2, inner, .inr rfl⟩, by decide, by decide⟩
  refine ⟨?_, ?_, ?_, ?_⟩
  · obtain ⟨context, found, -, -, -, budget⟩ := load_budget.2 _ _ _ _ _ _ _
      (timeoutWorld_same "9" "9" [] [] rfl rfl none (some "+007")) base
    exact ⟨context, found, budget "+007" 7 (.option rfl) (seven _ rfl)⟩
  · obtain ⟨context, found, -, -, -, budget⟩ := load_budget.2 _ _ _ _ _ _ _
      (timeoutWorld_same "9" "9" [] [("WALLINFO_TIMEOUT_SECS", " +007 ")] rfl rfl none none) base
    exact ⟨context, found, budget " +007 " 7 (.variable_ rfl rfl rfl (by decide)) (seven _ rfl)⟩
  · obtain ⟨context, found, -, -, -, budget⟩ := load_budget.2 _ _ _ _ _ _ _
      (timeoutWorld_same "9" "+007" [] [] rfl rfl none none) base
    exact ⟨context, found, budget "+007" 7 (.file rfl rfl rfl) (seven _ rfl)⟩
  · obtain ⟨context, found, -, -, -, budget⟩ := load_budget.2 _ _ _ _ _ _ _
      (timeoutWorld_same "9" "9" [] [("WALLINFO_TIMEOUT_SECS", "[7]")] rfl rfl none none) base
    have usual : GivesSeconds "[7]" 5 := (readTimeout_eq_iff _ _).mp rfl
    exact ⟨context, found, budget "[7]" 5 (.variable_ rfl rfl rfl (by decide)) usual⟩

end Context

end Placard
