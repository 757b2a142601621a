import Mathlib.Data.List.Induction
import Placard.Proofs.Registry.RoundTrip

/-! What a list collapses to: its names where each comes first, and under each the last connection. -/

namespace Placard.Registry

/-- The names in a list of connections, each where it comes first; blank names are left out. -/
def firstNames (connections : List Connection) : List String :=
  ((connections.map (·.name)).filter fun name => !Text.allBlank name).eraseDups

/-- The last connection of a name in a list. -/
def lastNamed? (connections : List Connection) (name : String) : Option Connection :=
  (connections.filter (·.name == name)).getLast?

/-! ### Putting one connection -/

/-- An entry that takes the place of one with the same key changes no key. -/
theorem keys_replaceEntry (name : String) (connection : Connection)
    (entries : List (String × Connection)) :
    (replaceEntry name (name, connection) entries).map (·.1) = entries.map (·.1) := by
  induction entries with
  | nil => rfl
  | cons held others ih =>
    rw [replaceEntry]
    split
    · rename_i same
      rw [List.map_cons, List.map_cons, same]
    · rw [List.map_cons, List.map_cons, ih]

/-- A connection is found under its name once it has taken the place of another of the name. -/
theorem lookup_replaceEntry (name other : String) (connection : Connection)
    (entries : List (String × Connection)) :
    (replaceEntry name (name, connection) entries).lookup other =
      if other = name then (entries.lookup name).map fun _ => connection
      else entries.lookup other := by
  -- Both searches stop at the same entry, as the keys are the same.
  induction entries with
  | nil => simp [replaceEntry]
  | cons held others ih =>
    obtain ⟨key, old⟩ := held
    rw [replaceEntry]
    split
    · rename_i same
      subst same
      by_cases wanted : other = key
      · simp [wanted]
      · simp [List.lookup_cons, beq_false_of_ne wanted, wanted]
    · rename_i different
      have passed : (name == key) = false := beq_false_of_ne (Ne.symm different)
      by_cases wanted : other = key
      · subst wanted
        simp [different]
      · simp [List.lookup_cons, beq_false_of_ne wanted, passed, ih]

/-- Putting a connection adds its name behind the others, unless it is there already. -/
theorem names_put (registry : Registry) (connection : Connection) :
    (registry.put connection).names =
      if connection.name ∈ registry.names then registry.names
      else registry.names ++ [connection.name] := by
  have held : registry.holds connection.name = true ↔ connection.name ∈ registry.names := holds_iff
  rw [put]
  split
  · rename_i found
    rw [if_pos (held.mp found), names, keys_replaceEntry, names]
  · rename_i free
    rw [if_neg fun listed => free (held.mpr listed)]
    simp [names]

/-- A connection that was put is found under its name, and nothing else changes. -/
theorem get?_put (registry : Registry) (connection : Connection) (name : String) :
    (registry.put connection).get? name =
      if connection.name = name then some connection else registry.get? name := by
  rw [put]
  split
  · rename_i found
    rw [get?, lookup_replaceEntry]
    by_cases own : connection.name = name
    · obtain ⟨old, known⟩ := Option.isSome_iff_exists.mp found
      rw [get?] at known
      rw [if_pos own.symm, if_pos own, known, Option.map_some]
    · rw [if_neg (Ne.symm own), if_neg own, get?]
  · rename_i free
    rw [get?, List.lookup_append, get?]
    by_cases own : connection.name = name
    · subst own
      have absent : registry.entries.lookup connection.name = none :=
        Option.not_isSome_iff_eq_none.mp free
      simp [absent]
    · have passed : (name == connection.name) = false := beq_false_of_ne (Ne.symm own)
      simp [List.lookup_cons, passed, own]

/-! ### Putting one after another -/

/-- Lists are put one behind the other. -/
theorem ofList_append (connections others : List Connection) :
    ofList (connections ++ others) = others.foldl
      (fun registry connection =>
        if Text.allBlank connection.name then registry else registry.put connection)
      (ofList connections) := by
  rw [ofList, List.foldl_append, ← ofList]

/-- The last connection of a list is put into the registry of those before it, if it has a name. -/
theorem ofList_concat (connections : List Connection) (last : Connection) :
    ofList (connections ++ [last]) =
      if Text.allBlank last.name then ofList connections else (ofList connections).put last := by
  rw [ofList_append, List.foldl_cons, List.foldl_nil]

/-- One more connection brings a new name if it has one that did not come before. -/
theorem firstNames_concat (connections : List Connection) (last : Connection) :
    firstNames (connections ++ [last]) =
      if Text.allBlank last.name = true ∨ last.name ∈ firstNames connections then
        firstNames connections
      else firstNames connections ++ [last.name] := by
  simp only [firstNames, List.map_append, List.filter_append, List.eraseDups_append, List.mem_eraseDups]
  generalize (connections.map (·.name)).filter (fun name => !Text.allBlank name) = before
  -- What is behind the names so far is at most the one name, if it is new.
  by_cases blank : Text.allBlank last.name = true
  · simp [blank, List.removeAll]
  · by_cases known : last.name ∈ before <;> simp [blank, known, List.removeAll, List.eraseDups_cons]

/-- The registry of a list has its names where each comes first. -/
theorem names_ofList (connections : List Connection) :
    (ofList connections).names = firstNames connections := by
  -- One more connection adds its name to both sides, or to neither.
  induction connections using List.reverseRecOn with
  | nil => rfl
  | append_singleton connections last ih =>
    rw [ofList_concat, firstNames_concat]
    by_cases blank : Text.allBlank last.name = true
    · rw [if_pos blank, if_pos (.inl blank), ih]
    · rw [if_neg blank, names_put, ih]
      simp only [blank, Bool.false_eq_true, false_or]

/-- The registry of a list has under each name the last connection of the name. -/
theorem get?_ofList (connections : List Connection) (name : String) :
    (ofList connections).get? name =
      if Text.allBlank name then none else lastNamed? connections name := by
  induction connections using List.reverseRecOn with
  | nil => split <;> rfl
  | append_singleton connections last ih =>
    have newest : lastNamed? (connections ++ [last]) name =
        if last.name = name then some last else lastNamed? connections name := by
      rw [lastNamed?, List.filter_append]
      by_cases own : last.name = name <;> simp [own, lastNamed?]
    rw [ofList_concat, newest]
    by_cases blank : Text.allBlank last.name = true
    · -- A connection without a name is left out, and is the last of no name that counts.
      rw [if_pos blank, ih]
      by_cases own : last.name = name
      · rw [← own, if_pos blank, if_pos blank]
      · rw [if_neg own]
    · rw [if_neg blank, get?_put, ih]
      by_cases own : last.name = name
      · rw [if_pos own, if_pos own, if_neg (own ▸ blank)]
      · rw [if_neg own, if_neg own]

/-- The connections of a sound registry are those that it finds under its names, in their order. -/
theorem Sound.toList_eq {registry : Registry} (sound : registry.Sound) :
    registry.toList = registry.names.filterMap registry.get? := by
  rw [names, List.filterMap_map, toList, ← List.filterMap_eq_map]
  refine List.filterMap_congr fun entry listed => ?_
  exact (Keyed.lookup_of_mem sound.keys_nodup listed).symm

/-- A list collapses to one connection for each name: the last one, where the name comes first.

Collapsing changes nothing any more once it is done, and it may be done to the front of a list at any
time. What a text holds as an array of records collapses in the same way. -/
theorem ofList_collapses (connections : List Connection) :
    let registry := ofList connections
    registry.toList.map (·.name) = firstNames connections ∧
    (∀ name, registry.get? name =
      if Text.allBlank name then none else lastNamed? connections name) ∧
    registry.toList = (firstNames connections).filterMap (lastNamed? connections) ∧
    ofList registry.toList = registry ∧
    (∀ others, ofList (connections ++ others) = ofList (registry.toList ++ others)) ∧
    (∀ text read, parse text = .ok read ↔
      ∃ records, Connection.parseAll text = .ok records ∧ read = ofList records) ∧
    parse (Json.array (connections.map Connection.toJson)).pretty = .ok registry := by
  intro registry
  have sound : registry.Sound := ofList_sound connections
  have listed : registry.names = registry.toList.map (·.name) := by
    rw [names, entries_eq sound.keyed]
    simp [Function.comp_def]
  have found : registry.names.filterMap registry.get? =
      (firstNames connections).filterMap (lastNamed? connections) := by
    rw [names_ofList]
    refine List.filterMap_congr fun name among => ?_
    -- Blank names are none of those that come first.
    have filled : Text.allBlank name = false := by
      rw [firstNames, List.mem_eraseDups, List.mem_filter] at among
      simpa using among.2
    rw [get?_ofList, filled, if_neg Bool.false_ne_true]
  refine ⟨listed ▸ names_ofList connections, get?_ofList connections, sound.toList_eq.trans found,
    sound.ofList_toList, fun others => ?_, fun text read => ?_, ?_⟩
  · rw [ofList_append, ofList_append, sound.ofList_toList]
  · rw [parse, map_eq_ok_iff]
    simp only [mapError_eq_ok_iff, eq_comm (a := read)]
  · rw [parse, Connection.parseAll_written]
    rfl

/-- A name that comes twice, with another in between and one without a name. -/
example : ofList [{ name := "a", url := "1" }, { name := " ", url := "2" }, { name := "b", url := "3" },
      { name := "a", url := "4" }] =
    ⟨[("a", { name := "a", url := "4" }), ("b", { name := "b", url := "3" })]⟩ := by
  decide +kernel

end Placard.Registry
