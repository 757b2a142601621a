import Placard.Proofs.Settings.Layered
import Placard.Proofs.Toml.Lines
import Placard.Settings.Writing

/-! Written settings: the text of a settings file is read as a table with the value of every leaf. -/

namespace Placard.Settings

open Placard.Toml (Line Section IsBareKey Reads)

/-- Settings whose numbers a settings file can hold. -/
structure Holdable (settings : Settings) : Prop where
  timeout : settings.timeoutSeconds.toNat < 0x8000_0000_0000_0000
  refresh : settings.refreshMinutes.toNat < 0x8000_0000_0000_0000
  finite : settings.target.previewScale.isFinite = true
  /-- The written decimals denote the number. -/
  exact_ : Decimal.float? (Decimal.toml.write settings.target.previewScale).toList =
    some settings.target.previewScale

/-! ### Lines -/

/-- The line of a whole number. -/
def wordLine (key : String) (value : Nat) (bare : IsBareKey key) (small : value < 0x8000_0000_0000_0000) :
    Line :=
  ⟨key, toString value, .integer value, bare, Toml.reads_word small⟩

/-- The line of a length. -/
def lengthLine (key : String) (value : UInt32) (bare : IsBareKey key) : Line :=
  wordLine key value.toNat bare (Nat.lt_trans value.toNat_lt (by decide))

/-- The line of a text. -/
def textLine (key value : String) (bare : IsBareKey key) : Line :=
  ⟨key, Toml.writeText value, .text value, bare, Toml.reads_text value⟩

/-- The line of a text that may be absent. -/
def textLine? (key : String) (value : Option String) (bare : IsBareKey key) : List Line :=
  (value.map fun text => textLine key text bare).toList

/-- The key of the seconds stands in a settings file as it is. -/
theorem timeoutKey_bare : IsBareKey "timeout_secs" := by decide

/-- The lines of a settings file before its first table. -/
def ownLines (settings : Settings) (holdable : settings.Holdable) : List Line :=
  [wordLine "timeout_secs" settings.timeoutSeconds.toNat (by decide) holdable.timeout,
    wordLine "refresh_interval_minutes" settings.refreshMinutes.toNat (by decide) holdable.refresh,
    textLine "template" settings.template (by decide)] ++
  textLine? "note" settings.note (by decide) ++
  textLine? "connections_file" settings.connectionsFile (by decide)

/-- The tables of a settings file. -/
def sections (settings : Settings) (holdable : settings.Holdable) : List Section :=
  [⟨"placement", [lengthLine "left" settings.placement.left (by decide),
      lengthLine "top" settings.placement.top (by decide),
      lengthLine "width" settings.placement.width (by decide),
      lengthLine "height" settings.placement.height (by decide)], by decide⟩,
    ⟨"target", [lengthLine "width" settings.target.width (by decide),
      lengthLine "height" settings.target.height (by decide),
      ⟨"preview_scale", Toml.writeFloat settings.target.previewScale,
        .float settings.target.previewScale, by decide,
        Toml.reads_float holdable.finite holdable.exact_⟩], by decide⟩,
    ⟨"http", [⟨"insecure", toString settings.web.insecure, .bool settings.web.insecure, by decide,
        Toml.reads_bool settings.web.insecure⟩] ++
      textLine? "ca_cert" settings.web.authority (by decide) ++
      textLine? "user_agent" settings.web.userAgent (by decide), by decide⟩]

/-- The line of a text that may be absent is written where the text is there. -/
theorem lineOf?_toList (key : String) (value : Option String) (bare : IsBareKey key) :
    (lineOf? key value).toList = (textLine? key value bare).flatMap Line.letters := by
  cases value with
  | none => rfl
  | some text => simp [lineOf?, textLine?, textLine, Line.letters]

/-- Settings are written as their lines and tables. -/
theorem write?_eq {settings : Settings} (holdable : settings.Holdable) :
    settings.write? =
      some (.ofList (Toml.documentText (ownLines settings holdable) (sections settings holdable))) := by
  -- The whole numbers are small enough, and nothing else is refused.
  have writable : settings.writable = true := by
    have timeout := holdable.timeout
    have refresh := holdable.refresh
    have first : settings.timeoutSeconds.toNat ≤ largestWritten := by
      rw [largestWritten]
      omega
    have second : settings.refreshMinutes.toNat ≤ largestWritten := by
      rw [largestWritten]
      omega
    rw [Settings.writable, decide_eq_true first, decide_eq_true second, Bool.and_self]
  -- A number is written by its digits, whatever its width.
  have length (key : String) (value : UInt32) (bare : IsBareKey key) :
      (lengthLine key value bare).letters = (Toml.line key (toString value)).toList := rfl
  have word (key : String) (value : UInt64) (bare : IsBareKey key)
      (small : value.toNat < 0x8000_0000_0000_0000) :
      (wordLine key value.toNat bare small).letters = (Toml.line key (toString value)).toList := rfl
  have text (key value : String) (bare : IsBareKey key) :
      (textLine key value bare).letters = (Toml.line key (Toml.writeText value)).toList := rfl
  have other (key written : String) (value : Toml) (bare : IsBareKey key) (reads : Reads written value) :
      Line.letters ⟨key, written, value, bare, reads⟩ = (Toml.line key written).toList := rfl
  rw [write?, if_pos writable, Option.some_inj, ← String.toList_inj]
  simp only [String.toList_append, String.toList_ofList, Toml.documentText, ownLines, sections,
    List.flatMap_append, List.flatMap_cons, List.flatMap_nil, ← lineOf?_toList, Section.letters,
    length, word, text, other, List.append_assoc, List.append_nil]

/-! ### The table that is read -/

/-- The item of a text that may be absent. -/
def textItem? (key : String) (value : Option String) : List (String × Toml) :=
  (value.map fun text => (key, Toml.text text)).toList

/-- The table that a settings file with these settings holds. -/
def toToml (settings : Settings) : Toml :=
  let word (key : String) (value : Nat) : String × Toml := (key, .integer value)
  .table ([word "timeout_secs" settings.timeoutSeconds.toNat,
      word "refresh_interval_minutes" settings.refreshMinutes.toNat,
      ("template", .text settings.template)] ++
    textItem? "note" settings.note ++ textItem? "connections_file" settings.connectionsFile ++
    [("placement", .table [word "left" settings.placement.left.toNat,
        word "top" settings.placement.top.toNat, word "width" settings.placement.width.toNat,
        word "height" settings.placement.height.toNat]),
      ("target", .table [word "width" settings.target.width.toNat,
        word "height" settings.target.height.toNat,
        ("preview_scale", .float settings.target.previewScale)]),
      ("http", .table ([("insecure", .bool settings.web.insecure)] ++
        textItem? "ca_cert" settings.web.authority ++ textItem? "user_agent" settings.web.userAgent))])

/-- The written settings are read as their table. -/
theorem parse_write? {settings : Settings} (holdable : settings.Holdable) {text : String}
    (written : settings.write? = some text) : Toml.parse text = .ok settings.toToml := by
  rw [write?_eq holdable, Option.some_inj] at written
  subst written
  -- No key comes twice, whichever of the texts are there.
  have distinct : ((ownLines settings holdable).map Line.key ++
      (sections settings holdable).map Section.key).Nodup := by
    cases note : settings.note <;> cases file : settings.connectionsFile <;>
      simp [ownLines, sections, textLine?, textLine, wordLine, note, file]
  -- The same key may stand in two tables, but not twice in one.
  have inside : ∀ part ∈ sections settings holdable, (part.lines.map Line.key).Nodup := by
    cases authority : settings.web.authority <;> cases agent : settings.web.userAgent <;>
      simp [sections, textLine?, textLine, lengthLine, wordLine, authority, agent]
  have items (key : String) (value : Option String) (bare : IsBareKey key) :
      (textLine? key value bare).map (fun line => (line.key, line.value)) = textItem? key value := by
    cases value <;> rfl
  rw [Toml.parse_documentText distinct inside, toToml]
  simp [Line.items, ownLines, sections, items, lengthLine, wordLine, textLine]

/-- What a settings file with these settings holds at every leaf. -/
def writtenAt? (settings : Settings) : Leaf → Option Toml
  | .timeoutSeconds => some (.integer settings.timeoutSeconds.toNat)
  | .refreshMinutes => some (.integer settings.refreshMinutes.toNat)
  | .template => some (.text settings.template)
  | .note => settings.note.map .text
  | .connectionsFile => settings.connectionsFile.map .text
  | .left => some (.integer settings.placement.left.toNat)
  | .top => some (.integer settings.placement.top.toNat)
  | .width => some (.integer settings.placement.width.toNat)
  | .height => some (.integer settings.placement.height.toNat)
  | .targetWidth => some (.integer settings.target.width.toNat)
  | .targetHeight => some (.integer settings.target.height.toNat)
  | .previewScale => some (.float settings.target.previewScale)
  | .insecure => some (.bool settings.web.insecure)
  | .authority => settings.web.authority.map .text
  | .userAgent => settings.web.userAgent.map .text

/-- A text that may be absent is found under its key, and other keys lead past it. -/
theorem lookup_textItem? (key : String) (value : Option String) (rest : List (String × Toml))
    (other : String) : (textItem? key value ++ rest).lookup other =
      if other = key then (value.map Toml.text).or (rest.lookup other) else rest.lookup other := by
  cases value with
  | none => simp [textItem?]
  | some text =>
    by_cases same : other = key
    · simp [textItem?, same]
    · simp [textItem?, same, List.lookup_cons, beq_false_of_ne same]

/-- The table of written settings leads to the value of every leaf. -/
theorem at?_toToml (settings : Settings) (leaf : Leaf) :
    settings.toToml.Opens leaf.path ∧ settings.toToml.at? leaf.path = settings.writtenAt? leaf := by
  have last (key : String) (value : Option String) (other : String) :
      (textItem? key value).lookup other = if other = key then value.map Toml.text else none := by
    simpa using lookup_textItem? key value [] other
  cases leaf <;>
    simp [Leaf.path, toToml, Toml.at?, Toml.Opens, List.lookup_cons, lookup_textItem?, last, writtenAt?]

/-- A settings file that was written holds single values only. -/
theorem scalar?_writtenAt? {settings : Settings} {leaf : Leaf} {value : Toml}
    (found : settings.writtenAt? leaf = some value) : ∃ scalar, value.scalar? = some scalar := by
  cases leaf <;> simp only [writtenAt?, Option.map_eq_some_iff, Option.some.injEq] at found
  all_goals first
    | (subst found; exact ⟨_, rfl⟩)
    | (obtain ⟨text, -, rfl⟩ := found; exact ⟨_, rfl⟩)

/-- The table of written settings gives the value of every leaf. -/
theorem toToml_gives {settings : Settings} (distinct : settings.toToml.Distinct) (layer : Layer) :
    (Given.ofToml layer settings.toToml).Gives fun leaf =>
      (settings.writtenAt? leaf).bind Toml.scalar? := by
  have opens (leaf : Leaf) := (at?_toToml settings leaf).1
  have reached (leaf : Leaf) := (at?_toToml settings leaf).2
  have single (leaf : Leaf) (value : Toml) (found : settings.toToml.at? leaf.path = some value) :
      ∃ scalar, value.scalar? = some scalar := by
    rw [reached] at found
    exact scalar?_writtenAt? found
  simpa only [reached] using Given.gives_ofToml distinct opens single layer

/-! ### The values that are read -/

/-- A whole number within its bound is read from a signed one. -/
theorem wholeUpTo?_signed {bound value : Nat} (within : value ≤ bound) :
    wholeUpTo? bound (.signed value) = some value := by
  rw [wholeUpTo?, if_pos ⟨Int.natCast_nonneg value, Int.ofNat_le.mpr within⟩]
  rfl

/-- A length is read from its whole number. -/
theorem read?_length (value : UInt32) : Kind.length.read? (.signed value.toNat) = some value := by
  have within : value.toNat ≤ 0xFFFF_FFFF := Nat.le_of_lt_succ value.toNat_lt
  rw [Kind.read?, wholeUpTo?_signed within, Option.map_some]
  exact congrArg some UInt32.ofNat_toNat

/-- A count is read from its whole number. -/
theorem read?_count (value : UInt64) : Kind.count.read? (.signed value.toNat) = some value := by
  have within : value.toNat ≤ largestWord := Nat.le_of_lt_succ value.toNat_lt
  rw [Kind.read?, wholeUpTo?_signed within, Option.map_some]
  exact congrArg some UInt64.ofNat_toNat

/-- A positive number of seconds is read from its whole number. -/
theorem read?_seconds {value : UInt64} (positive : 0 < value.toNat) :
    Kind.seconds.read? (.signed value.toNat) = some value := by
  rw [Kind.read?, lenientSeconds, if_pos (Int.natCast_pos.mpr positive)]
  exact congrArg some UInt64.ofNat_toNat

/-- A text that may be absent is read from its line, or is absent as it is when nothing is given. -/
theorem read?_textItem {read? : Scalar → Option (Option String)}
    (taken : ∀ text, read? (.text text) = some (some text)) (value : Option String)
    {usual_ : Option (Option String)} (absent : usual_ = some none) :
    (match (value.map Toml.text).bind Toml.scalar? with
      | some scalar => read? scalar
      | none => usual_) = some value := by
  cases value with
  | none => exact absent
  | some text => exact taken text

/-- Over the usual values, the written ones give the settings again. -/
theorem layered_written {settings : Settings} (positive : 0 < settings.timeoutSeconds.toNat) (leaf : Leaf) :
    layered (fun leaf => (settings.writtenAt? leaf).bind Toml.scalar?) (fun _ => none) leaf =
      some (leaf.get settings) := by
  cases leaf with
  | timeoutSeconds => exact read?_seconds positive
  | refreshMinutes => exact read?_count _
  | template => rfl
  | note => exact read?_textItem (fun _ => rfl) _ rfl
  | connectionsFile => exact read?_textItem (fun _ => rfl) _ rfl
  | left => exact read?_length _
  | top => exact read?_length _
  | width => exact read?_length _
  | height => exact read?_length _
  | targetWidth => exact read?_length _
  | targetHeight => exact read?_length _
  | previewScale => rfl
  | insecure => rfl
  | authority => exact read?_textItem (fun _ => rfl) _ rfl
  | userAgent => exact read?_textItem (fun _ => rfl) _ rfl

/-- Written settings, read from a file without variables, are the settings again. -/
theorem ofLayers_written {settings : Settings} (distinct : settings.toToml.Distinct)
    (positive : 0 < settings.timeoutSeconds.toNat) (layer : Layer) :
    ofLayers (.ofToml layer settings.toToml) (.table .environment []) = .ok settings :=
  ofLayers_eq (toToml_gives distinct layer) (Given.gives_nothing .environment) (layered_written positive)

end Placard.Settings
