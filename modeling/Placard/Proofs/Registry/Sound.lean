import Placard.Proofs.Except
import Placard.Proofs.Keyed
import Placard.Registry.Record
import Placard.Registry.Secret

/-! The invariant of registries: each connection under its own name, and no name blank or used twice. -/

namespace Placard.Registry

/-- Each connection is filed under its own name, which no other has and which is not blank. -/
structure Sound (registry : Registry) : Prop where
  keyed : ∀ entry ∈ registry.entries, entry.1 = entry.2.name
  distinct : (registry.toList.map (·.name)).Nodup
  named : ∀ connection ∈ registry.toList, Text.allBlank connection.name = false

/-- Under their own names, connections are keyed by the names in their order. -/
private theorem names_eq {registry : Registry}
    (keyed : ∀ entry ∈ registry.entries, entry.1 = entry.2.name) :
    registry.entries.map (·.1) = registry.toList.map (·.name) := by
  rw [toList, List.map_map]
  exact List.map_congr_left keyed

/-- The keys of a sound registry are distinct. -/
theorem Sound.keys_nodup {registry : Registry} (sound : registry.Sound) :
    (registry.entries.map (·.1)).Nodup :=
  names_eq sound.keyed ▸ sound.distinct

/-- The invariant, told of the entries alone. -/
theorem sound_iff {registry : Registry} :
    registry.Sound ↔ (registry.entries.map (·.1)).Nodup ∧
      ∀ entry ∈ registry.entries, entry.1 = entry.2.name ∧ Text.allBlank entry.1 = false := by
  constructor
  · intro sound
    refine ⟨sound.keys_nodup, fun entry member => ⟨sound.keyed entry member, ?_⟩⟩
    rw [sound.keyed entry member]
    exact sound.named _ (List.mem_map_of_mem member)
  · rintro ⟨apart, each⟩
    have keyed := fun entry member => (each entry member).1
    refine ⟨keyed, names_eq keyed ▸ apart, fun connection member => ?_⟩
    obtain ⟨entry, listed, rfl⟩ := List.mem_map.mp member
    obtain ⟨own, filled⟩ := each entry listed
    exact own ▸ filled

/-! ### Looking up -/

/-- A sound registry finds exactly the connection that has the name. -/
theorem Sound.get?_eq_some_iff {registry : Registry} (sound : registry.Sound) {name : String}
    {connection : Connection} :
    registry.get? name = some connection ↔
      connection ∈ registry.toList ∧ connection.name = name := by
  rw [get?, Keyed.lookup_eq_some_iff_mem sound.keys_nodup]
  constructor
  · intro member
    exact ⟨List.mem_map_of_mem member, (sound.keyed _ member).symm⟩
  · rintro ⟨member, rfl⟩
    -- The connection stands in some entry, whose key is its name.
    obtain ⟨entry, listed, rfl⟩ := List.mem_map.mp member
    exact sound.keyed entry listed ▸ listed

/-- A name is held exactly when it is one of the keys. -/
theorem holds_iff {registry : Registry} {name : String} :
    registry.holds name = true ↔ name ∈ registry.entries.map (·.1) := by
  rw [holds, get?, List.lookup_isSome_iff]
  constructor
  · rintro ⟨entry, listed, same⟩
    exact eq_of_beq same ▸ List.mem_map_of_mem listed
  · intro member
    obtain ⟨entry, listed, rfl⟩ := List.mem_map.mp member
    exact ⟨entry, listed, beq_self_eq_true entry.1⟩

/-! ### Changing the entries -/

/-- What stands in a list after an entry was replaced is the new entry or was there before. -/
theorem mem_replaceEntry {name : String} {entry other : String × Connection}
    {entries : List (String × Connection)} (member : other ∈ replaceEntry name entry entries) :
    other = entry ∨ other ∈ entries := by
  -- The search passes over entries of other names and keeps all behind the replaced one.
  induction entries with
  | nil => cases member
  | cons held others ih =>
    rw [replaceEntry] at member
    split at member
    · rcases List.mem_cons.mp member with same | later
      · exact .inl same
      · exact .inr (List.mem_cons_of_mem _ later)
    · rcases List.mem_cons.mp member with same | later
      · exact .inr (same ▸ List.mem_cons_self)
      · exact (ih later).imp_right (List.mem_cons_of_mem _)

/-- Replacing keeps the keys distinct when the new key is the old one or no key yet. -/
theorem replaceEntry_nodup {name : String} {entry : String × Connection}
    {entries : List (String × Connection)} (distinct : (entries.map (·.1)).Nodup)
    (free : entry.1 = name ∨ entry.1 ∉ entries.map (·.1)) :
    ((replaceEntry name entry entries).map (·.1)).Nodup := by
  induction entries with
  | nil => exact distinct
  | cons held others ih =>
    rw [List.map_cons, List.nodup_cons] at distinct
    obtain ⟨apart, rest⟩ := distinct
    rw [replaceEntry]
    split
    · rename_i same
      -- The new key takes the place of the old one, which no later entry has.
      rw [List.map_cons, List.nodup_cons]
      refine ⟨?_, rest⟩
      rcases free with kept | unused
      · rw [kept, ← same]
        exact apart
      · exact fun later => unused (List.mem_cons_of_mem _ later)
    · rename_i different
      rw [List.map_cons, List.nodup_cons]
      refine ⟨fun later => ?_, ih rest (free.imp_right fun unused later =>
        unused (List.mem_cons_of_mem _ later))⟩
      obtain ⟨other, listed, equal⟩ := List.mem_map.mp later
      rcases mem_replaceEntry listed with rfl | earlier
      · rcases free with kept | unused
        · exact different (equal.symm.trans kept)
        · exact unused (equal ▸ List.mem_cons_self)
      · exact apart (equal ▸ List.mem_map_of_mem earlier)

/-- Taking an entry out leaves a part of the list in its order. -/
theorem removeEntry_sublist (name : String) (entries : List (String × Connection)) :
    (removeEntry name entries).Sublist entries := by
  induction entries with
  | nil => exact .slnil
  | cons held others ih =>
    rw [removeEntry]
    split
    · exact List.sublist_cons_self held others
    · exact ih.cons_cons held

/-! ### What the operations do -/

/-- Adding refuses a blank name, then a name that is held, and else files behind all others. -/
theorem add_eq (registry : Registry) (connection : Connection) :
    registry.add connection =
      if Text.allBlank connection.name then .error .emptyName
      else if registry.holds connection.name then .error (.duplicateName connection.name)
      else .ok ⟨registry.entries ++ [(connection.name, connection)]⟩ := by
  -- The two tests are made one after the other, and each ends the operation when it fails.
  by_cases blank : Text.allBlank connection.name = true
  · simp [add, checkName, blank]
  · by_cases held : registry.holds connection.name = true <;>
      simp [add, checkName, blank, held]

/-- Updating refuses a blank name, then an absent one, then one that another connection has. -/
theorem update_eq (registry : Registry) (name : String) (connection : Connection) :
    registry.update name connection =
      if Text.allBlank connection.name then .error .emptyName
      else if !registry.holds name then .error (.notFound name)
      else if connection.name != name && registry.holds connection.name then
        .error (.duplicateName connection.name)
      else .ok ⟨replaceEntry name (connection.name, connection) registry.entries⟩ := by
  by_cases blank : Text.allBlank connection.name = true
  · simp [update, checkName, blank]
  · by_cases held : registry.holds name = true
    · by_cases taken : connection.name ≠ name ∧ registry.holds connection.name = true <;>
        simp [update, checkName, blank, held, taken]
    · simp [update, checkName, blank, held]

/-! ### The operations keep the invariant -/

/-- The empty registry is sound. -/
theorem empty_sound : empty.Sound :=
  sound_iff.mpr ⟨List.nodup_nil, by simp [empty]⟩

/-- A connection of a new name may be filed behind all others. -/
theorem Sound.append {registry : Registry} (sound : registry.Sound) {connection : Connection}
    (filled : Text.allBlank connection.name = false)
    (free : registry.holds connection.name = false) :
    Sound ⟨registry.entries ++ [(connection.name, connection)]⟩ := by
  obtain ⟨apart, each⟩ := sound_iff.mp sound
  have unused : connection.name ∉ registry.entries.map (·.1) :=
    fun member => by simp [holds_iff.mpr member] at free
  refine sound_iff.mpr ⟨?_, fun entry member => ?_⟩
  · rw [List.map_append, List.nodup_append]
    refine ⟨apart, List.nodup_singleton _, fun key listed other only same => unused ?_⟩
    have last : other = connection.name := List.mem_singleton.mp only
    exact last ▸ same ▸ listed
  · rcases List.mem_append.mp member with listed | last
    · exact each entry listed
    · rw [List.mem_singleton.mp last]
      exact ⟨rfl, filled⟩

/-- A connection may take the place of another when its name is the old one or a new one. -/
theorem Sound.replace {registry : Registry} (sound : registry.Sound) {name : String}
    {connection : Connection} (filled : Text.allBlank connection.name = false)
    (free : connection.name = name ∨ registry.holds connection.name = false) :
    Sound ⟨replaceEntry name (connection.name, connection) registry.entries⟩ := by
  obtain ⟨apart, each⟩ := sound_iff.mp sound
  have unused : connection.name = name ∨ connection.name ∉ registry.entries.map (·.1) :=
    free.imp_right fun absent member => by simp [holds_iff.mpr member] at absent
  refine sound_iff.mpr ⟨replaceEntry_nodup apart unused, fun entry member => ?_⟩
  rcases mem_replaceEntry member with rfl | listed
  · exact ⟨rfl, filled⟩
  · exact each entry listed

/-- A successful addition keeps the invariant. -/
theorem Sound.add {registry next : Registry} (sound : registry.Sound) {connection : Connection}
    (added : registry.add connection = .ok next) : next.Sound := by
  rw [add_eq] at added
  split at added
  · cases added
  · rename_i filled
    split at added
    · cases added
    · rename_i free
      cases added
      exact sound.append (by simpa using filled) (by simpa using free)

/-- A successful update keeps the invariant. -/
theorem Sound.update {registry next : Registry} (sound : registry.Sound) {name : String}
    {connection : Connection} (updated : registry.update name connection = .ok next) :
    next.Sound := by
  rw [update_eq] at updated
  split at updated
  · cases updated
  · rename_i filled
    split at updated
    · cases updated
    · split at updated
      · cases updated
      · rename_i free
        cases updated
        refine sound.replace (by simpa using filled) ?_
        -- The last test passes when the name stays, or when it is not held yet.
        by_cases kept : connection.name = name
        · exact .inl kept
        · exact .inr (by simpa [kept] using free)

/-- A successful removal keeps the invariant. -/
theorem Sound.remove {registry next : Registry} (sound : registry.Sound) {name : String}
    {removed : Connection} (taken : registry.remove name = .ok (removed, next)) : next.Sound := by
  obtain ⟨apart, each⟩ := sound_iff.mp sound
  have part := removeEntry_sublist name registry.entries
  unfold Registry.remove at taken
  split at taken
  · cases taken
  · cases taken
    exact sound_iff.mpr ⟨apart.sublist (part.map _), fun entry member => each entry (part.subset member)⟩

/-- Filing in place of the connection of the same name, or behind all others, keeps the invariant. -/
theorem Sound.put {registry : Registry} (sound : registry.Sound) {connection : Connection}
    (filled : Text.allBlank connection.name = false) : (registry.put connection).Sound := by
  unfold Registry.put
  split
  · exact sound.replace filled (.inl rfl)
  · rename_i free
    exact sound.append filled (by simpa using free)

/-- Whatever the list, the registry made of it is sound. -/
theorem ofList_sound (connections : List Connection) : (ofList connections).Sound := by
  -- The connections are put one after another into a registry that stays sound.
  have general : ∀ registry : Registry, registry.Sound →
      (connections.foldl (fun registry connection =>
        if Text.allBlank connection.name then registry else registry.put connection)
        registry).Sound := by
    induction connections with
    | nil => exact fun registry sound => sound
    | cons connection others ih =>
      intro registry sound
      rw [List.foldl_cons]
      refine ih _ ?_
      split
      · exact sound
      · rename_i filled
        exact sound.put (by simpa using filled)
  exact general empty empty_sound

/-- Whatever the text, a registry that is read from it is sound. -/
theorem parse_sound {text : String} {registry : Registry} (read : parse text = .ok registry) :
    registry.Sound := by
  unfold parse at read
  cases records : (Connection.parseAll text).mapError (DataError.mk text ·) with
  | error error => simp [records, Except.map] at read
  | ok connections =>
    simp only [records, Except.map, Except.ok.injEq] at read
    exact read ▸ ofList_sound connections

/-- A change that leaves the names alone keeps the invariant. -/
theorem Sound.mapConnections {registry : Registry} (sound : registry.Sound)
    {change : Connection → Connection} (kept : ∀ connection, (change connection).name = connection.name) :
    (registry.mapConnections change).Sound := by
  obtain ⟨apart, each⟩ := sound_iff.mp sound
  refine sound_iff.mpr ⟨?_, fun entry member => ?_⟩
  · simpa [Registry.mapConnections, Function.comp_def] using apart
  · obtain ⟨old, listed, rfl⟩ := List.mem_map.mp member
    obtain ⟨own, filled⟩ := each old listed
    exact ⟨own.trans (kept old.2).symm, filled⟩

/-- Filling in a secret leaves the name alone. -/
theorem filled_name (lookup : String → Option String) (connection : Connection) :
    (connection.filled lookup).name = connection.name := by
  unfold Connection.filled
  split
  · split <;> rfl
  · rfl

/-- Filling in secrets keeps the invariant. -/
theorem Sound.fill {registry : Registry} (sound : registry.Sound)
    (lookup : String → Option String) : (registry.fill lookup).1.Sound :=
  sound.mapConnections (filled_name lookup)

end Placard.Registry
