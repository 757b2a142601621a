import Placard.Proofs.Except
import Placard.Proofs.Keyed
import Placard.Toml.Reader

/-! Keys in TOML documents: whatever is read, no key comes twice in any of its tables. -/

namespace Placard.Toml

/-- In no table of a value a key comes twice; what stands in lists is left out. -/
inductive Distinct : Toml → Prop
  | integer (value : Int) : Distinct (.integer value)
  | float (value : Float) : Distinct (.float value)
  | bool (value : Bool) : Distinct (.bool value)
  | text (value : String) : Distinct (.text value)
  | date (written : String) : Distinct (.date written)
  | array (items : List Toml) : Distinct (.array items)
  | table {items : List (String × Toml)} (keys : (items.map (·.1)).Nodup)
      (inner : ∀ item ∈ items, Distinct item.2) : Distinct (.table items)

/-! ### Tables in the making -/

/-- A draft in whose tables no key comes twice. -/
inductive Draft.Sound : Draft → Prop
  | value {value : Toml} (distinct : value.Distinct) : Sound (.value value)
  | table {making : Making} {items : Items} (keys : (items.map (·.1)).Nodup)
      (inner : ∀ item ∈ items, Sound item.2) : Sound (.table making items)
  | list {tables : List Items} (keys : ∀ items ∈ tables, (items.map (·.1)).Nodup)
      (inner : ∀ items ∈ tables, ∀ item ∈ items, Sound item.2) : Sound (.list tables)

/-- The items of a table in which no key comes twice. -/
structure Items.Sound (items : Items) : Prop where
  keys : (items.map (·.1)).Nodup
  inner : ∀ item ∈ items, item.2.Sound

namespace Items

/-- A table without items is sound. -/
theorem Sound.empty : Items.Sound [] := ⟨List.nodup_nil, by simp⟩

/-- What stands under a key is sound. -/
theorem Sound.lookup {items : Items} (sound : items.Sound) {key : String} {draft : Draft}
    (found : List.lookup key items = some draft) : draft.Sound :=
  sound.inner _ (Keyed.mem_of_lookup found)

/-- A sound draft may be put under any key. -/
theorem Sound.put {items : Items} (sound : items.Sound) (key : String) {draft : Draft}
    (held : draft.Sound) : (items.put key draft).Sound := by
  unfold Items.put
  split
  · -- The key keeps its place, so the keys stay as they are.
    have same : (items.map fun item => if item.1 == key then (key, draft) else item).map (·.1) =
        items.map (·.1) := by
      rw [List.map_map]
      refine List.map_congr_left fun item _ => ?_
      by_cases here : item.1 = key
      · simp [here]
      · simp [here]
    refine ⟨same ▸ sound.keys, fun item member => ?_⟩
    obtain ⟨old, among, rfl⟩ := List.mem_map.mp member
    split
    · exact held
    · exact sound.inner old among
  · rename_i absent
    refine ⟨?_, fun item member => ?_⟩
    · rw [List.map_append, List.nodup_append]
      refine ⟨sound.keys, List.nodup_singleton key, fun first earlier second last => ?_⟩
      rw [List.map_singleton, List.mem_singleton] at last
      subst last
      rintro rfl
      obtain ⟨item, among, same⟩ := List.mem_map.mp earlier
      exact absent (List.any_eq_true.mpr ⟨item, among, by simp [same]⟩)
    · rcases List.mem_append.mp member with earlier | last
      · exact sound.inner item earlier
      · rw [List.mem_singleton.mp last]
        exact held

end Items

/-- The items of the table in a sound draft. -/
theorem Draft.Sound.items {making : Making} {items : Items} (sound : (Draft.table making items).Sound) :
    items.Sound := by
  cases sound with
  | table keys inner => exact ⟨keys, inner⟩

/-- The tables of the list in a sound draft. -/
theorem Draft.Sound.tables {tables : List Items} (sound : (Draft.list tables).Sound) :
    ∀ items ∈ tables, items.Sound := by
  cases sound with
  | list keys inner => exact fun items member => ⟨keys items member, inner items member⟩

/-- A table of sound items is a sound draft. -/
theorem Items.Sound.draft {items : Items} (sound : items.Sound) (making : Making) :
    (Draft.table making items).Sound := .table sound.keys sound.inner

/-- A list of sound tables is a sound draft. -/
theorem Draft.Sound.ofTables {tables : List Items} (sound : ∀ items ∈ tables, items.Sound) :
    (Draft.list tables).Sound :=
  .list (fun items member => (sound items member).keys) fun items member => (sound items member).inner

/-! ### Changes -/

/-- A change leaves no key twice in a table. -/
def Preserves (change : Change) : Prop :=
  ∀ ⦃making making' items items'⦄, items.Sound → change making items = some (making', items') →
    Items.Sound items'

/-- The last table of a list, or an empty one, is sound. -/
theorem sound_last {tables : List Items} (sound : ∀ items ∈ tables, items.Sound) :
    Items.Sound (tables.getLast?.getD []) := by
  cases last : tables.getLast? with
  | none => exact .empty
  | some items => exact sound items (List.mem_of_getLast? last)

/-- A change at the end of a path leaves no key twice in a table on the way. -/
theorem within_preserves (dotted : Bool) {change : Change} (keeps : Preserves change) (path : List String) :
    Preserves (within dotted path change) := by
  -- What stands under the first key decides where the change goes on.
  induction path with
  | nil => exact keeps
  | cons key keys ih =>
    intro making making' items items' sound changed
    rw [within] at changed
    beta_reduce at changed
    split at changed
    · -- A missing table is made, and changed from being empty.
      obtain ⟨⟨inner, held⟩, below, same⟩ := Option.bind_eq_some_iff.mp changed
      cases same
      exact sound.put key ((ih .empty below).draft inner)
    · -- Nothing is entered where a value stands.
      cases changed
    · -- Of a list, only the last table is changed.
      rename_i tables found
      have each := (sound.lookup found).tables
      obtain ⟨⟨inner, held⟩, below, same⟩ := Option.bind_eq_some_iff.mp changed
      cases same
      refine sound.put key (.ofTables fun items member => ?_)
      rcases List.mem_append.mp member with earlier | last
      · exact each items (List.dropLast_subset tables earlier)
      · rw [List.mem_singleton.mp last]
        exact ih (sound_last each) below
    · -- A table is changed in its place, unless a dotted key may not enter it.
      rename_i inner held found
      split at changed
      · cases changed
      · obtain ⟨⟨inner', held'⟩, below, same⟩ := Option.bind_eq_some_iff.mp changed
        cases same
        exact sound.put key ((ih (sound.lookup found).items below).draft inner')

/-- A value that is put under a dotted key leaves no key twice in a table. -/
theorem putValue_preserves (path : List String) {value : Toml} (distinct : value.Distinct) :
    Preserves (putValue path value) := by
  unfold putValue
  split
  · rintro _ _ _ _ _ ⟨⟩
  · -- At the end of the path, the last key is new or the change is refused.
    refine within_preserves true ?_ _
    intro making making' items items' sound changed
    beta_reduce at changed
    split at changed
    · cases changed
    · cases changed
      exact sound.put _ (.value distinct)

/-- The items of a table keep their keys when they become values. -/
theorem itemsToToml_eq (items : Items) :
    itemsToToml items = items.map fun item => (item.1, item.2.toToml) := by
  induction items with
  | nil => rfl
  | cons item others ih =>
    rw [itemsToToml, ih]
    rfl

/-- A table of distinct values under keys that come once is distinct. -/
theorem distinct_table {items : Items} (keys : (items.map (·.1)).Nodup)
    (inner : ∀ item ∈ items, item.2.toToml.Distinct) : (Toml.table (itemsToToml items)).Distinct := by
  rw [itemsToToml_eq]
  refine .table (by simpa [Function.comp_def] using keys) fun item member => ?_
  obtain ⟨held, here, rfl⟩ := List.mem_map.mp member
  exact inner held here

/-- A sound draft becomes a value in whose tables no key comes twice. -/
theorem Draft.Sound.toToml {draft : Draft} (sound : draft.Sound) : draft.toToml.Distinct := by
  induction sound with
  | value distinct =>
    rw [Draft.toToml]
    exact distinct
  | table keys inner ih =>
    rw [Draft.toToml]
    exact distinct_table keys ih
  | list keys inner ih =>
    rw [Draft.toToml]
    exact .array _

/-- Sound items become a table in which no key comes twice. -/
theorem Items.Sound.toToml {items : Items} (sound : items.Sound) :
    (Toml.table (itemsToToml items)).Distinct :=
  distinct_table sound.keys fun item member => (sound.inner item member).toToml

/-! ### Documents -/

namespace Document

/-- A document in whose tables no key comes twice so far. -/
structure Sound (document : Document) : Prop where
  root : document.root.Sound
  current : document.current.Sound

/-- A document before its first line is sound. -/
theorem empty_sound : empty.Sound := ⟨.empty, .empty⟩

/-- The table that lines belong to is put in its place. -/
theorem Sound.settle {document : Document} (sound : document.Sound) {items : Items}
    (settled : document.settle = some items) : items.Sound := by
  unfold Document.settle at settled
  split at settled
  · -- Before the first header, lines belong to the document itself.
    cases settled
    exact sound.current
  · obtain ⟨⟨making, held⟩, placed, same⟩ := Option.bind_eq_some_iff.mp settled
    cases same
    refine within_preserves false ?_ _ sound.root placed
    intro making making' items items' before changed
    beta_reduce at changed
    have table := sound.current.draft .stated
    split at changed
    · -- The table is the first of its list, or comes behind the others.
      split at changed
      · cases changed
        refine before.put _ (.ofTables fun items member => ?_)
        rw [List.mem_singleton.mp member]
        exact sound.current
      · rename_i tables found
        cases changed
        refine before.put _ (.ofTables fun items member => ?_)
        rcases List.mem_append.mp member with earlier | last
        · exact (before.lookup found).tables items earlier
        · rw [List.mem_singleton.mp last]
          exact sound.current
      · cases changed
    · -- The table is new, or takes the place of one that was only passed.
      split at changed
      · cases changed
        exact before.put _ table
      · cases changed
      · cases changed
        exact before.put _ table
      · cases changed

/-- What stands at the end of a path is sound. -/
theorem reach_sound {path : List String} {root items : Items} (sound : root.Sound)
    (reached : beginTable.reach path root = some items) : items.Sound := by
  -- Each key leads into a table, or into the last table of a list.
  induction path generalizing root with
  | nil =>
    cases reached
    exact sound
  | cons key keys ih =>
    rw [beginTable.reach] at reached
    split at reached
    · rename_i making held found
      exact ih (sound.lookup found).items reached
    · rename_i tables found
      exact ih (sound_last (sound.lookup found).tables) reached
    · cases reached

/-- A header keeps a document sound. -/
theorem Sound.beginTable {document next : Document} (sound : document.Sound) {path : List String}
    (begun : document.beginTable path = some next) : next.Sound := by
  unfold Document.beginTable at begun
  obtain ⟨root, settled, begun⟩ := Option.bind_eq_some_iff.mp begun
  split at begun
  · cases begun
  · obtain ⟨⟨making, checked⟩, found, same⟩ := Option.bind_eq_some_iff.mp begun
    cases same
    -- The way to the header is made; what stands at its end already becomes the current table.
    have whole : checked.Sound := by
      refine within_preserves false ?_ _ (sound.settle settled) found
      intro making making' items items' before changed
      beta_reduce at changed
      split at changed
      · cases changed
        exact before
      · cases changed
        exact before
      · cases changed
    refine ⟨whole, ?_⟩
    dsimp only
    split
    · rename_i items reached
      split
      · rename_i making held there
        exact ((reach_sound whole reached).lookup there).items
      · exact .empty
    · exact .empty

/-- A header of a list keeps a document sound. -/
theorem Sound.beginListTable {document next : Document} (sound : document.Sound) {path : List String}
    (begun : document.beginListTable path = some next) : next.Sound := by
  -- The list is made where it is missing; its next table begins empty.
  unfold Document.beginListTable at begun
  obtain ⟨root, settled, begun⟩ := Option.bind_eq_some_iff.mp begun
  split at begun
  · cases begun
  · obtain ⟨⟨making, checked⟩, found, same⟩ := Option.bind_eq_some_iff.mp begun
    cases same
    refine ⟨within_preserves false ?_ _ (sound.settle settled) found, .empty⟩
    intro making making' items items' before changed
    beta_reduce at changed
    split at changed
    · cases changed
      exact before.put _ (.ofTables (by simp))
    · cases changed
      exact before
    · cases changed

/-- A line keeps a document sound. -/
theorem Sound.addLine {document next : Document} (sound : document.Sound) {path : List String}
    {value : Toml} (distinct : value.Distinct) (added : document.addLine path value = some next) :
    next.Sound := by
  obtain ⟨⟨making, current⟩, changed, same⟩ := Option.bind_eq_some_iff.mp added
  cases same
  exact ⟨sound.root, putValue_preserves path distinct sound.current changed⟩

/-- A finished document has no key twice in a table. -/
theorem Sound.finish {document : Document} (sound : document.Sound) {whole : Toml}
    (finished : document.finish = some whole) : whole.Distinct := by
  obtain ⟨items, settled, rfl⟩ := Option.map_eq_some_iff.mp finished
  exact (sound.settle settled).toToml

end Document

/-! ### Values -/

/-- Whatever a reading gives has no key twice in a table. -/
def Yields (read : Except Halt (Toml × List Char)) : Prop :=
  ∀ ⦃value rest⦄, read = .ok (value, rest) → value.Distinct

namespace Yields

/-- A reading that stops gives nothing. -/
theorem error (stop : Halt) : Yields (.error stop) := by
  rintro value rest ⟨⟩

/-- A reading that gives a value without repeated keys. -/
theorem ok {value : Toml} (distinct : value.Distinct) (rest : List Char) : Yields (.ok (value, rest)) := by
  rintro _ _ ⟨⟩
  exact distinct

/-- A reading in two steps gives what the second one gives. -/
theorem bind {α : Type} {first : Except Halt α} {next : α → Except Halt (Toml × List Char)}
    (each : ∀ found, Yields (next found)) : Yields (first >>= next) := by
  cases first with
  | error stop => exact error stop
  | ok found => exact each found

/-- A reading in two ways gives what one of them gives. -/
theorem orElse {first : Except Halt (Toml × List Char)} {second : Unit → Except Halt (Toml × List Char)}
    (one : Yields first) (other : Yields (second ())) : Yields (orElse first second) := by
  unfold Toml.orElse
  split
  · exact other
  · exact one

/-- A reading that ends all reading where it fails gives the same values. -/
theorem insist {read : Except Halt (Toml × List Char)} (yields : Yields read) : Yields (insist read) := by
  cases read with
  | error stop => exact error _
  | ok found => exact yields

end Yields

/-- Whole numbers have no keys. -/
theorem readInteger_yields (text : List Char) : Yields (readInteger text) := by
  -- Whatever the base is, the digits make a whole number or nothing.
  unfold readInteger
  simp only []
  split
  all_goals
    refine .bind fun found => ?_
    obtain ⟨letters, rest⟩ := found
    simp only []
    split
  all_goals first
    | exact .ok (.integer _) _
    | exact .error _

/-- Numbers with a point, an exponent or a name have no keys. -/
theorem readFloat_yields (text : List Char) : Yields (readFloat text) := by
  -- A number is read from its decimals, or by its name.
  unfold readFloat
  split
  · split
    · split
      · exact .error _
      · exact .ok (.float _) _
    · exact .error _
  · exact .error _
  · unfold readNamed
    simp only []
    split
    · exact .ok (.float _) _
    · exact .ok (.float _) _
    · exact .error _

/-- Dates and times have no keys. -/
theorem readMoment_yields (text : List Char) : Yields (readMoment text) := by
  -- Whichever parts of a date and a time are there, they make one value.
  unfold readMoment
  simp only []
  refine .orElse (.bind fun afterDate => ?_) (.bind fun rest => .ok (.date _) _)
  split
  · split
    · split
      · exact .bind fun final => .ok (.date _) _
      · exact .error _
      · exact .ok (.date _) _
    · exact .ok (.date _) _
  · exact .ok (.date _) _

/-- What begins with a sign or a digit has no keys. -/
theorem readNumber_yields (text : List Char) : Yields (readNumber text) :=
  .orElse (readMoment_yields text) (.orElse (readFloat_yields text) (readInteger_yields text))

/-- Pairs of keys and values in braces make a table in which no key comes twice. -/
theorem foldlM_putValue {pairs : List (List String × Toml)} (each : ∀ pair ∈ pairs, pair.2.Distinct)
    {items items' : Items} (sound : items.Sound)
    (made : pairs.foldlM (fun items (path, value) =>
      (putValue path value .stated items).map (·.2)) items = some items') : items'.Sound := by
  -- Each pair is put like a line, into what those before it made.
  induction pairs generalizing items with
  | nil =>
    cases made
    exact sound
  | cons pair others ih =>
    rw [List.foldlM_cons] at made
    obtain ⟨next, changed, rest⟩ := Option.bind_eq_some_iff.mp made
    obtain ⟨⟨making, held⟩, put, rfl⟩ := Option.map_eq_some_iff.mp changed
    have after := putValue_preserves pair.1 (each pair List.mem_cons_self) sound put
    exact ih (fun pair member => each pair (List.mem_cons_of_mem _ member)) after rest

/-- A list is looked at no further. -/
theorem readArray_yields (fuel level : Nat) (text : List Char) : Yields (readArray fuel level text) := by
  cases fuel with
  | zero =>
    rw [readArray]
    exact .error _
  | succ fuel =>
    rw [readArray]
    refine .bind fun found => .bind fun behind => ?_
    split
    · exact .ok (.array _) _
    · exact .error _

/-- A word stands for its value. -/
theorem readWord_yields (word : String) {value : Toml} (distinct : value.Distinct) (text : List Char) :
    Yields (readWord word value text) := by
  unfold readWord
  split
  · exact .ok distinct _
  · exact .error _

/-- Whatever pairs of keys and values are read, no key comes twice in a table of a value. -/
def YieldsPairs (read : Except Halt (List (List String × Toml) × List Char)) : Prop :=
  ∀ ⦃pairs rest⦄, read = .ok (pairs, rest) → ∀ pair ∈ pairs, pair.2.Distinct

/-- A value has no key twice in a table, if tables in braces with less fuel have none. -/
theorem readValue_step {fuel : Nat} (tables : ∀ level text, Yields (readInline fuel level text))
    (level : Nat) (text : List Char) : Yields (readValue (fuel + 1) level text) := by
  cases text with
  | nil =>
    rw [readValue]
    exact .error _
  | cons c more =>
    -- The first character decides on the kind of the value; the goals follow the order of the reader.
    rw [readValue]
    split
    · exact .bind fun found => .ok (.text _) _
    split
    · split
      · exact .error _
      · exact readArray_yields _ _ _
    split
    · split
      · exact .error _
      · exact tables _ _
    split
    · exact readNumber_yields _
    split
    · exact readInteger_yields _
    split
    · exact readFloat_yields _
    split
    · exact readWord_yields _ (.bool true) _
    split
    · exact readWord_yields _ (.bool false) _
    · exact .error _

/-- A table in braces has no key twice, if the values of its pairs have none. -/
theorem readInline_step {fuel : Nat} (allPairs : ∀ level text, YieldsPairs (readPairs fuel level text))
    (level : Nat) (text : List Char) : Yields (readInline (fuel + 1) level text) := by
  -- The pairs are put into an empty table one after another.
  rw [readInline]
  cases read : readPairs fuel level text with
  | error stop => exact .error stop
  | ok found =>
    obtain ⟨pairs, behind⟩ := found
    rw [ok_bind]
    simp only []
    split
    · exact .error _
    · rename_i items made
      have sound := foldlM_putValue (allPairs level text read) .empty made
      split
      · exact .ok sound.toToml _
      · exact .error _

/-- A key is read with a value that has no key twice in a table. -/
theorem readPair_distinct {fuel level : Nat} (values : ∀ text, Yields (readValue fuel level text))
    {text behind : List Char} {entry : List String × Toml}
    (read : (readKey text >>= fun (path, afterKey) =>
      match afterKey with
      | '=' :: rest => insist (readValue fuel level (skipGaps rest)) >>= fun (value, after) =>
          pure ((path, value), skipGaps after)
      | other => halt other) = .ok (entry, behind)) : entry.2.Distinct := by
  obtain ⟨⟨path, afterKey⟩, -, read⟩ := bind_eq_ok_iff.mp read
  simp only [] at read
  split at read
  · obtain ⟨⟨value, after⟩, held, same⟩ := bind_eq_ok_iff.mp read
    cases same
    exact (values _).insist held
  · cases read

/-- The values of pairs have no key twice, if values and pairs that are read with less fuel have none. -/
theorem readPairs_step {fuel : Nat} (values : ∀ level text, Yields (readValue fuel level text))
    (allPairs : ∀ level text, YieldsPairs (readPairs fuel level text)) (level : Nat) (text : List Char) :
    YieldsPairs (readPairs (fuel + 1) level text) := by
  intro pairs rest read
  rw [readPairs] at read
  simp only [] at read
  split at read
  · cases read
  · -- Without a key, there are no pairs.
    cases read
    simp
  · -- Whatever comes after it, the first pair is a key with a value.
    rename_i entry behind got
    obtain ⟨⟨others, final⟩, rest, same⟩ := bind_eq_ok_iff.mp read
    cases same
    intro pair member
    rcases List.mem_cons.mp member with rfl | later
    · exact readPair_distinct (values level) got
    · exact allPairs level behind rest pair later
  · -- Without a comma, the first pair is the only one.
    rename_i entry behind _ got
    cases read
    intro pair member
    rw [List.mem_singleton.mp member]
    exact readPair_distinct (values level) got

/-- Whatever values, tables in braces and pairs are read, no key comes twice in a table. -/
theorem readValue_yields (fuel : Nat) :
    (∀ level text, Yields (readValue fuel level text)) ∧
    (∀ level text, Yields (readInline fuel level text)) ∧
    (∀ level text, YieldsPairs (readPairs fuel level text)) := by
  -- Values, tables in braces and their pairs call one another with less fuel.
  induction fuel with
  | zero =>
    refine ⟨fun level text => ?_, fun level text => ?_, fun level text pairs rest read => ?_⟩
    · rw [readValue]
      exact .error _
    · rw [readInline]
      exact .error _
    · rw [readPairs] at read
      cases read
  | succ fuel ih =>
    obtain ⟨values, tables, allPairs⟩ := ih
    exact ⟨readValue_step tables, readInline_step allPairs, readPairs_step values allPairs⟩

/-! ### Whole documents -/

/-- The line of a key has a value in whose tables no key comes twice. -/
theorem readLine_distinct {text rest : List Char} {path : List String} {value : Toml}
    (read : readLine text = .ok ((path, value), rest)) : value.Distinct := by
  unfold readLine at read
  obtain ⟨⟨steps, afterKey⟩, -, read⟩ := bind_eq_ok_iff.mp read
  simp only [] at read
  split at read
  · obtain ⟨⟨held, after⟩, valued, read⟩ := bind_eq_ok_iff.mp read
    obtain ⟨last, -, same⟩ := bind_eq_ok_iff.mp read
    cases same
    exact ((readValue_yields _).1 _ _).insist valued
  · cases read

/-- Lines keep a document sound. -/
theorem readLines_sound (fuel : Nat) {document final : Document} {text : List Char}
    (sound : document.Sound) (read : readLines fuel document text = .ok final) : final.Sound := by
  -- Each line takes one unit of fuel and keeps the document sound.
  induction fuel generalizing document text with
  | zero =>
    rw [readLines] at read
    cases read
  | succ fuel ih =>
    rw [readLines] at read
    simp only [] at read
    split at read
    · -- At the end of the text, the document is what it was.
      cases read
      exact sound
    · -- A comment changes nothing.
      obtain ⟨after, -, rest⟩ := bind_eq_ok_iff.mp read
      exact ih sound rest
    · -- A header begins a table, or the next table of a list.
      obtain ⟨⟨⟨path, doubled⟩, after⟩, -, rest⟩ := bind_eq_ok_iff.mp read
      simp only [] at rest
      split at rest
      · rename_i next begun
        refine ih ?_ rest
        split at begun
        · exact sound.beginListTable begun
        · exact sound.beginTable begun
      · cases rest
    · -- What is left is an empty line, or the line of a key.
      split at read
      · split at read
        · exact ih sound read
        · cases read
      · obtain ⟨⟨⟨path, value⟩, after⟩, line, rest⟩ := bind_eq_ok_iff.mp read
        simp only [] at rest
        split at rest
        · rename_i next added
          exact ih (sound.addLine (readLine_distinct line) added) rest
        · cases rest

/-- In no table of a document that is read a key comes twice. -/
theorem parse_distinct {text : String} {whole : Toml} (read : parse text = .ok whole) :
    whole.Distinct := by
  -- A stop is only reworded, so the document was read and finished.
  obtain ⟨document, lines, rest⟩ := bind_eq_ok_iff.mp (mapError_eq_ok_iff.mp read)
  split at rest
  · rename_i finished
    cases rest
    exact (readLines_sound _ Document.empty_sound lines).finish finished
  · cases rest

end Placard.Toml
