import Mathlib.Tactic.Choose
import Placard.Proofs.Settings.Filed
import Placard.Proofs.Settings.Variables

/-! Loading in layers: each leaf is what a variable gives, or else the file, or else the usual value. -/

namespace Placard

/-- A file is read as a table of settings; where there is none, the table is empty. -/
inductive Disk.Holds (disk : Disk) (path : String) : Toml → Prop
  | missing (nowhere : disk.settingsFile? path = none) : Holds disk path (.table [])
  | file {found text : String} {whole : Toml} (first : disk.settingsFile? path = some found)
      (bytes : disk.read found = .ok (Text.bytes text.toList)) (parsed : Toml.parse text = .ok whole) :
      Holds disk path whole

/-- What a file holds has no key twice in a table. -/
theorem Disk.Holds.distinct {disk : Disk} {path : String} {whole : Toml} (holds : disk.Holds path whole) :
    whole.Distinct := by
  cases holds with
  | missing => exact .table List.nodup_nil (by simp)
  | file first bytes parsed => exact Toml.parse_distinct parsed

/-- The layer of what a settings file gives; where there is none, it is the lowest one. -/
def Disk.settingsLayer (disk : Disk) (path : String) : Layer :=
  match disk.settingsFile? path with
  | none => .usual
  | some found => .file (Path.seenFrom (Path.ofNames disk.working) found)

/-- What a file holds is given when settings are loaded. -/
theorem Disk.Holds.givenFile_eq {disk : Disk} {path : String} {whole : Toml}
    (holds : disk.Holds path whole) :
    Settings.givenFile disk path = .ok (.ofToml (disk.settingsLayer path) whole) := by
  -- A missing file gives an empty table, as a file without lines would.
  cases holds with
  | missing nowhere =>
    rw [Settings.givenFile, Disk.settingsLayer, nowhere, Given.ofToml]
    rfl
  | @file found text whole first bytes parsed =>
    rw [Settings.givenFile, Disk.settingsLayer, first]
    simp only [bytes, Text.decode?_bytes, String.ofList_toList, parsed]

namespace Toml

open Settings (Leaf)

/-- A table of settings gives single values of the right types to leaves, and anything under other keys. -/
structure Fits (whole : Toml) : Prop where
  opens : ∀ leaf : Leaf, whole.Opens leaf.path
  typed : ∀ (leaf : Leaf) (value : Toml), whole.at? leaf.path = some value →
    ∃ scalar, value.scalar? = some scalar ∧ (leaf.kind.read? scalar).isSome

/-- The single value that a table gives to a leaf. -/
def scalarFor? (whole : Toml) (leaf : Leaf) : Option Scalar := (whole.at? leaf.path).bind scalar?

/-- A table that fits gives each leaf its value. -/
theorem Fits.gives {whole : Toml} (fits : whole.Fits) (distinct : whole.Distinct) (layer : Layer) :
    (Given.ofToml layer whole).Gives whole.scalarFor? := by
  refine Given.gives_ofToml distinct fits.opens (fun leaf value found => ?_) layer
  obtain ⟨scalar, single, -⟩ := fits.typed leaf value found
  exact ⟨scalar, single⟩

/-- The value that a table gives to a leaf is of the right type, if the table fits. -/
theorem Fits.typed_scalarFor? {whole : Toml} (fits : whole.Fits) {leaf : Leaf} {scalar : Scalar}
    (given : whole.scalarFor? leaf = some scalar) : (leaf.kind.read? scalar).isSome := by
  obtain ⟨value, found, single⟩ := Option.bind_eq_some_iff.mp given
  obtain ⟨held, same, typed⟩ := fits.typed leaf value found
  cases single.symm.trans same
  exact typed

end Toml

namespace Settings

/-- Where both layers give values of the right types only, each leaf has one. -/
theorem layered_isSome {file environment : Leaf → Option Scalar}
    (below : ∀ leaf scalar, file leaf = some scalar → (leaf.kind.read? scalar).isSome)
    (above : ∀ leaf scalar, environment leaf = some scalar → (leaf.kind.read? scalar).isSome)
    (leaf : Leaf) : (layered file environment leaf).isSome := by
  -- The uppermost layer that gives a value decides, and all of them give readable ones.
  unfold layered
  split
  · rename_i scalar given
    exact above leaf scalar given
  · split
    · rename_i scalar given
      exact below leaf scalar given
    · rfl

/-- The value of a leaf depends on what the layers give to this leaf only. -/
theorem layered_congr {file file' environment environment' : Leaf → Option Scalar} {leaf : Leaf}
    (below : file' leaf = file leaf) (above : environment' leaf = environment leaf) :
    layered file' environment' leaf = layered file environment leaf := by
  rw [layered, below, above, layered]

/-- What settings are loaded from: a file whose values fit, and variables that fit. -/
structure Sources (world : World) (path : String) (whole : Toml) : Prop where
  holds : world.disk.Holds path whole
  file : whole.Fits
  environment : ∀ entry ∈ world.environment, Variable.Fits entry

/-- From sources that fit settings are loaded, leaf by leaf. -/
theorem Sources.load {world : World} {path : String} {whole : Toml} (sources : Sources world path whole) :
    ∃ settings, (load path : StateM World (Except StoreError Settings)).run world =
        (.ok settings, world) ∧
      ∀ leaf : Leaf, layered whole.scalarFor? (Variable.scalarFor? world.environment) leaf =
        some (leaf.get settings) := by
  have each (leaf : Leaf) : ∃ value,
      layered whole.scalarFor? (Variable.scalarFor? world.environment) leaf = some value := by
    refine Option.isSome_iff_exists.mp (layered_isSome ?_ ?_ leaf)
    · exact fun _ _ => sources.file.typed_scalarFor?
    · exact fun _ _ => Variable.typed_scalarFor? sources.environment
  -- Every leaf has a value now, and settings are made of their leaves.
  choose values typed using each
  have given := sources.holds.givenFile_eq
  have made : ofLayers (.ofToml (world.disk.settingsLayer path) whole)
      (Variable.layer world.environment) = .ok (ofLeaves values) :=
    ofLayers_eq (sources.file.gives sources.holds.distinct _)
      (Variable.layer_gives sources.environment) typed
  refine ⟨ofLeaves values, ?_, fun leaf => ?_⟩
  · rw [load_run_eq, loaded, given]
    simp only [made]
    rfl
  · rw [get_ofLeaves]
    exact typed leaf

/-- Each leaf of the loaded settings is what a variable gives to it, or else the file, or else its usual
value; where the layers give the same to a leaf, it is loaded the same, whatever they give to others. -/
theorem load_layered (world : World) (path : String) (whole : Toml) (sources : Sources world path whole) :
    ∃ settings,
      (load path : StateM World (Except StoreError Settings)).run world = (.ok settings, world) ∧
      (∀ leaf : Leaf, layered whole.scalarFor? (Variable.scalarFor? world.environment) leaf =
        some (leaf.get settings)) ∧
      ∀ (world' : World) (path' : String) (whole' : Toml), Sources world' path' whole' →
        ∃ settings',
          (load path' : StateM World (Except StoreError Settings)).run world' = (.ok settings', world') ∧
          ∀ leaf : Leaf, whole'.scalarFor? leaf = whole.scalarFor? leaf →
            Variable.scalarFor? world'.environment leaf = Variable.scalarFor? world.environment leaf →
            leaf.get settings' = leaf.get settings := by
  obtain ⟨settings, done, values⟩ := sources.load
  refine ⟨settings, done, values, fun world' path' whole' sources' => ?_⟩
  obtain ⟨settings', done', values'⟩ := sources'.load
  -- Both have the value that the layers give to the leaf, which is the same on either side.
  refine ⟨settings', done', fun leaf below above => ?_⟩
  have same := (values' leaf).symm.trans ((layered_congr below above).trans (values leaf))
  exact Option.some.inj same

/-- In the root directory, a settings file is looked for only there. -/
theorem settingsFile?_root {disk : Disk} (root : disk.working = []) :
    disk.settingsFile? "config.toml" = disk.firstFile? ["/config.toml"] := by
  have upward : Path.upward (Path.ofNames []) "config.toml" = ["/config.toml"] := by decide
  rw [Disk.settingsFile?, root, upward]

/-- A settings file that gives some leaves, and has other keys beside them. -/
def someText : String := "timeout_secs = 9\nother = 1\n\n[target]\nheight = 7\ndepth = 8\n"

/-- The table of such a file. -/
def someToml : Toml :=
  .table [("timeout_secs", .integer 9), ("other", .integer 1),
    ("target", .table [("height", .integer 7), ("depth", .integer 8)])]

/-- A world with such a file in the root directory. -/
def someWorld (environment : List (String × String)) : World :=
  ⟨⟨[(["config.toml"], .file (Text.bytes someText.toList))], []⟩, environment, ⟨0⟩, "", ""⟩

/-- Such a file fits, whatever variables fit beside it. -/
theorem someWorld_sources {environment : List (String × String)}
    (fits : ∀ entry ∈ environment, Variable.Fits entry) :
    Sources (someWorld environment) "config.toml" someToml := by
  refine ⟨?_, ⟨fun leaf => ?_, fun leaf value found => ?_⟩, fits⟩
  · have written : someText = .ofList (Toml.documentText
        [lengthLine "timeout_secs" 9 (by decide), lengthLine "other" 1 (by decide)]
        [⟨"target", [lengthLine "height" 7 (by decide), lengthLine "depth" 8 (by decide)], by decide⟩]) := by
      rfl
    have parsed : Toml.parse someText = .ok someToml := by
      rw [written]
      exact Toml.parse_documentText (by decide) (by decide)
    have first : (someWorld environment).disk.settingsFile? "config.toml" = some "/config.toml" :=
      (settingsFile?_root rfl).trans rfl
    exact .file first (by rfl) parsed
  · cases leaf <;> simp [Leaf.path, someToml, Toml.Opens, List.lookup_cons]
  · cases leaf <;> simp [Leaf.path, someToml, Toml.at?, List.lookup_cons] at found
    all_goals
      subst found
      exact ⟨_, rfl, rfl⟩

/-- A variable for one leaf of a table is put over the file, and leaves the rest of the table to it. -/
theorem load_layered_width : ∃ settings settings',
    (load "config.toml" : StateM World (Except StoreError Settings)).run
      (someWorld [("WALLINFO_TARGET__WIDTH", "2560"), ("WALLINFO_OTHER", "[1]")]) =
        (.ok settings, someWorld [("WALLINFO_TARGET__WIDTH", "2560"), ("WALLINFO_OTHER", "[1]")]) ∧
    (load "config.toml" : StateM World (Except StoreError Settings)).run (someWorld []) =
        (.ok settings', someWorld []) ∧
    settings.timeoutSeconds = 9 ∧ settings.target.width = 2560 ∧ settings.target.height = 7 ∧
    settings.note = none ∧
    ∀ leaf : Leaf, leaf ≠ .targetWidth → leaf.get settings' = leaf.get settings := by
  have width : Variable.Fits ("WALLINFO_TARGET__WIDTH", "2560") :=
    @Variable.fits_name .targetWidth "2560" (.unsigned 2560) rfl rfl
  have other : Variable.Fits ("WALLINFO_OTHER", "[1]") := by
    have named : Variable.keys? "WALLINFO_OTHER" = some ["other"] := by rfl
    intro keys same
    cases named.symm.trans same
    exact .inr fun leaf => by cases leaf <;> decide
  have sources : Sources
      (someWorld [("WALLINFO_TARGET__WIDTH", "2560"), ("WALLINFO_OTHER", "[1]")]) "config.toml" someToml :=
    someWorld_sources (by simp [width, other])
  obtain ⟨settings, done, values, others⟩ := load_layered _ "config.toml" someToml sources
  -- Without the variable, the two layers give the same to every other leaf.
  obtain ⟨settings', done', kept⟩ :=
    others (someWorld []) "config.toml" someToml (someWorld_sources (by simp))
  refine ⟨settings, settings', done, done', ?_, ?_, ?_, ?_, fun leaf different => kept leaf rfl ?_⟩
  · exact (Option.some.inj (values .timeoutSeconds)).symm
  · exact (Option.some.inj (values .targetWidth)).symm
  · exact (Option.some.inj (values .targetHeight)).symm
  · exact (Option.some.inj (values .note)).symm
  · cases leaf <;> first | rfl | exact absurd rfl different

/-! ### Characters -/

/-- A world without files, and with one variable. -/
def bareWorld (name text : String) : World := ⟨⟨[], []⟩, [(name, text)], ⟨0⟩, "", ""⟩

/-- In such a world no settings file is found. -/
theorem settingsFile?_bareWorld (name text : String) :
    (bareWorld name text).disk.settingsFile? "config.toml" = none :=
  (settingsFile?_root rfl).trans rfl

/-- In such a world no settings file gives anything. -/
theorem givenFile_bareWorld (name text : String) :
    givenFile (bareWorld name text).disk "config.toml" = .ok (.table .usual []) := by
  simp only [givenFile, settingsFile?_bareWorld]

/-- Such a world fits where its variable does. -/
theorem bareWorld_sources {name text : String} (fits : Variable.Fits (name, text)) :
    Sources (bareWorld name text) "config.toml" (.table []) := by
  refine ⟨.missing (settingsFile?_bareWorld _ _), ⟨fun leaf => ?_, fun leaf value found => ?_⟩, ?_⟩
  · cases leaf <;> rintro _ ⟨⟩
  · cases leaf <;> cases found
  · intro entry member
    rw [List.mem_singleton.mp member]
    exact fits

/-- A character between quotation marks is a single value. -/
theorem readValue_letter (c : Char) :
    Variable.readValue (.ofList ['\'', c, '\'']) = .scalar .environment (.letter c) := by
  rw [Variable.readValue, String.length_ofList, String.toList_ofList]
  rfl

/-- No character is taken as a note. -/
theorem load_letter (c : Char) :
    (load "config.toml" : StateM World (Except StoreError Settings)).run
        (bareWorld "WALLINFO_NOTE" (.ofList ['\'', c, '\''])) =
      (.error (.unloadable (.badValue ⟨.notText, ["note"], .environment⟩)),
        bareWorld "WALLINFO_NOTE" (.ofList ['\'', c, '\''])) := by
  have variable_ : Variable.layer [("WALLINFO_NOTE", .ofList ['\'', c, '\''])] =
      .table .environment [("note", .scalar .environment (.letter c))] := by
    have named : Variable.keys? "WALLINFO_NOTE" = some ["note"] := by rfl
    rw [Variable.layer, List.foldl_cons, List.foldl_nil]
    simp only [named, readValue_letter, Variable.nest, Given.overlaid]
    rfl
  -- The character comes through all layers, and is no text when the note is read.
  have refused : ofLayers (.table .usual [])
      (.table .environment [("note", .scalar .environment (.letter c))]) =
        .error ⟨.notText, ["note"], .environment⟩ := by
    simp only [ofLayers, toGiven, Given.overlaid, Given.overlaidItems, Given.put]
    rfl
  rw [load_run_eq, loaded, givenFile_bareWorld]
  simp only [bareWorld, variable_, refused]
  rfl

/-- A character is refused as a note, though a path of one character is taken. -/
theorem load_letter_refused :
    (load "config.toml" : StateM World (Except StoreError Settings)).run
        (bareWorld "WALLINFO_NOTE" "'x'") =
      (.error (.unloadable (.badValue ⟨.notText, ["note"], .environment⟩)),
        bareWorld "WALLINFO_NOTE" "'x'") ∧
    (load "config.toml" : StateM World (Except StoreError Settings)).run
        (bareWorld "WALLINFO_CONNECTIONS_FILE" "'x'") =
      (.ok { connectionsFile := some "x" }, bareWorld "WALLINFO_CONNECTIONS_FILE" "'x'") := by
  refine ⟨load_letter 'x', ?_⟩
  have fits : Variable.Fits ("WALLINFO_CONNECTIONS_FILE", "'x'") :=
    @Variable.fits_name .connectionsFile "'x'" (.letter 'x') rfl rfl
  obtain ⟨settings, done, values⟩ := (bareWorld_sources fits).load
  have same : settings = { connectionsFile := some "x" } := by
    refine ext_leaves fun leaf => Option.some.inj ((values leaf).symm.trans ?_)
    cases leaf <;> rfl
  rw [done, same]

end Settings

end Placard
