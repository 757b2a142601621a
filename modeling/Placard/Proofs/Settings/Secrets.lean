import Placard.Proofs.Command.Budget

/-! Variables that hold secrets give no settings: with or without them, the same settings are loaded. -/

namespace Placard

namespace Variable

/-- A variable holds a secret for a connection: its name begins as such names do. -/
def isSecret (name : String) : Bool :=
  secretPrefix.toList.isPrefixOf name.toList

/-- Two surroundings differ in nothing but variables that hold secrets. -/
def SameOpen (environment environment' : List (String × String)) : Prop :=
  environment'.filter (!isSecret ·.1) = environment.filter (!isSecret ·.1)

/-- The variable of a connection holds a secret. -/
theorem isSecret_secretVariable (name : String) : isSecret (secretVariable name) = true := by
  rw [isSecret, secretVariable, String.toList_append, List.isPrefixOf_iff_prefix]
  exact List.prefix_append _ _

/-- The first key that such a variable leads to begins with the word for secrets. -/
theorem secret_key {name : String} (secret : isSecret name = true) {keys : List String}
    (named : keys? name = some keys) : ∃ key others, keys = key :: others ∧ "secret".toList <+: key.toList := by
  obtain ⟨rest, letters⟩ := List.isPrefixOf_iff_prefix.mp secret
  -- The word stands in the name behind the mark of settings, and no blank or point comes before its end.
  have solid (c : Char) (member : c ∈ secretPrefix.toList) : Text.isBlank c = false := by
    have all : secretPrefix.toList.all (!Text.isBlank ·) = true := by decide
    simpa using List.all_eq_true.mp all c member
  have inner : Text.inner name.toList = secretPrefix.toList ++ Text.cutBlanks rest := by
    have first : Text.dropBlanks name.toList = name.toList := by
      rw [← letters]
      exact Text.dropBlanks_cons (by decide) _
    rw [Text.inner, first, ← letters, Text.cutBlanks_append solid]
  obtain ⟨tail, read⟩ : ∃ tail, keys? name = (
      let keys := (Text.pieces (· == '.') ("SECRET".toList ++ tail)).map (·.map Char.toLower)
      if keys.any List.isEmpty then none else some (keys.map .ofList)) := by
    unfold keys?
    rw [inner]
    exact ⟨_, rfl⟩
  have whole (c : Char) (member : c ∈ "SECRET".toList) : (c == '.') = false := by
    have all : "SECRET".toList.all (!· == '.') = true := by decide
    simpa using List.all_eq_true.mp all c member
  obtain ⟨piece, others, pieces⟩ : ∃ piece others,
      Text.pieces (· == '.') ("SECRET".toList ++ tail) = ("SECRET".toList ++ piece) :: others :=
    Text.pieces_joined whole tail
  rw [read, pieces] at named
  simp only [Option.ite_none_left_eq_some, Option.some.injEq] at named
  refine ⟨_, _, named.2.symm, ?_⟩
  simp only [String.toList_ofList, List.map_append]
  exact List.prefix_append _ _

/-- Under a key that does not begin with the word for secrets, the same is given. -/
theorem SameOpen.givenUnder {environment environment' : List (String × String)}
    (same : SameOpen environment environment') {key : String} (plain : ¬ "secret".toList <+: key.toList) :
    givenUnder key environment' = givenUnder key environment := by
  -- No variable that holds a secret leads to the key.
  have among (entries : List (String × String)) :
      entries.filter (leadsTo key) = (entries.filter (!isSecret ·.1)).filter (leadsTo key) := by
    rw [List.filter_filter]
    refine List.filter_congr fun entry _ => ?_
    cases secret : isSecret entry.1 with
    | false => simp
    | true =>
      have astray : leadsTo key entry = false := by
        cases named : keys? entry.1 with
        | none => simp [leadsTo, named]
        | some keys =>
          obtain ⟨first, others, rfl, word⟩ := secret_key secret named
          have different : first ≠ key := fun same => plain (same ▸ word)
          simp [leadsTo, named, different]
      simp [astray]
  rw [Variable.givenUnder, Variable.givenUnder, among environment', same, ← among]

/-- A variable that holds no secret has the same value. -/
theorem SameOpen.lookup {environment environment' : List (String × String)}
    (same : SameOpen environment environment') {name : String}
    (plain : isSecret name = false) : environment'.lookup name = environment.lookup name := by
  have kept (value : String) : (!isSecret (name, value).1) = true := by rw [plain]; rfl
  rw [← Keyed.lookup_filter (!isSecret ·.1) kept environment', same, Keyed.lookup_filter _ kept]

end Variable

/-! ### Settings -/

/-- Settings are made of what is given under their keys, none of which begins with the word for secrets. -/
theorem Given.toSettings_congr {layer layer' : Layer} {items items' : List (String × Given)}
    (same : ∀ key, ¬ "secret".toList <+: key.toList → items'.lookup key = items.lookup key) :
    (table layer' items').toSettings = (table layer items).toSettings := by
  -- Each field is looked up under its own key.
  have field {α : Type} (place : Nat) {key : String} (plain : ¬ "secret".toList <+: key.toList)
      (read : Given → Except GivenProblem α) :
      (Fields.keyed items').get? place key read = (Fields.keyed items).get? place key read :=
    Fields.get?_congr place (same key plain) read
  simp only [toSettings, fields, ok_bind,
    field _ (show ¬ "secret".toList <+: "connections_file".toList by decide),
    field _ (show ¬ "secret".toList <+: "http".toList by decide),
    field _ (show ¬ "secret".toList <+: "note".toList by decide),
    field _ (show ¬ "secret".toList <+: "placement".toList by decide),
    field _ (show ¬ "secret".toList <+: "refresh_interval_minutes".toList by decide),
    field _ (show ¬ "secret".toList <+: "target".toList by decide),
    field _ (show ¬ "secret".toList <+: "template".toList by decide),
    field _ (show ¬ "secret".toList <+: "timeout_secs".toList by decide)]

/-- Whatever a file gives, variables that hold secrets make no difference to the settings. -/
theorem Variable.SameOpen.ofLayers {environment environment' : List (String × String)}
    (same : SameOpen environment environment') (file : Given) :
    Settings.ofLayers file (layer environment') = Settings.ofLayers file (layer environment) := by
  obtain ⟨items, table, distinct, under⟩ := layer_eq environment
  obtain ⟨items', table', distinct', under'⟩ := layer_eq environment'
  have given (key : String) (plain : ¬ "secret".toList <+: key.toList) :
      items'.lookup key = items.lookup key := by
    rw [under, under', same.givenUnder plain]
  rw [Settings.ofLayers, Settings.ofLayers, table, table']
  -- The variables go over what is below, key by key, or stand alone.
  cases Settings.usual.toGiven.overlaid file with
  | table layer lower =>
    rw [Given.overlaid, Given.overlaid]
    refine Given.toSettings_congr fun key plain => ?_
    rw [Given.lookup_overlaidItems distinct', Given.lookup_overlaidItems distinct, given key plain]
  | scalar layer value => exact Given.toSettings_congr given
  | list layer lower => exact Given.toSettings_congr given

/-- The usual path of the settings file is the same. -/
theorem Variable.SameOpen.usualSettingsPath {environment environment' : List (String × String)}
    (same : SameOpen environment environment') :
    Placard.usualSettingsPath environment' = Placard.usualSettingsPath environment := by
  rw [Placard.usualSettingsPath, Placard.usualSettingsPath, same.lookup (by decide),
    same.lookup (by decide)]

/-- The settings file is looked for at the same path. -/
theorem Variable.SameOpen.settingsPath {environment environment' : List (String × String)}
    (same : SameOpen environment environment') (sources : Sources) :
    sources.settingsPath environment' = sources.settingsPath environment := by
  rw [Sources.settingsPath, Sources.settingsPath, same.usualSettingsPath]

end Placard
