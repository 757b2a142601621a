import Placard.Proofs.Connection.Members
import Placard.Proofs.Registry.Sound

/-! Connections written as records read back as themselves, and so does a registry of them, in the same order. -/

namespace Placard

/-- The word for a verb is one of those that a file may hold for it. -/
theorem Method.lookup_word (method : Method) : Method.spellings.lookup method.word = some method := by
  cases method <;> rfl

/-- The word for a kind of authorisation is one of those that a file may hold for it. -/
theorem Auth.lookup_word (auth : Auth) : Auth.spellings.lookup auth.word = some auth := by
  cases auth <;> rfl

/-- The word for a grammar is one of those that a file may hold for it. -/
theorem Grammar.lookup_word (grammar : Grammar) :
    Grammar.spellings.lookup grammar.word = some grammar := by
  cases grammar <;> rfl

namespace Connection

open Json

/-- The members of the record of a connection. -/
def members (connection : Connection) : List (String × Json) := [
  ("Name", .string connection.name), ("Url", .string connection.url),
  ("Method", .string connection.method.word), ("AuthType", .string connection.auth.word),
  ("Username", .string connection.username), ("PasswordOrToken", .string connection.secret),
  ("JsonKey", .string connection.jsonPath), ("ContentType", .string connection.grammar.word),
  ("RegexPattern", .string connection.pattern)]

/-- A connection is written as the object of its members. -/
theorem toJson_eq (connection : Connection) : connection.toJson = .object connection.members := rfl

/-- All members of a connection tell something of it. -/
theorem telling_members (connection : Connection) : telling connection.members = connection.members := rfl

/-- The members of a connection make a record. -/
theorem isRecord_members (connection : Connection) : IsRecord connection.members := by
  have distinct : (connection.members.map (·.1)).Nodup := by
    show fieldKeys.Nodup
    decide
  -- A word that stands for something is one of those that are known.
  have known {α : Type} {words : List (String × α)} {word : String} {meaning : α}
      (found : words.lookup word = some meaning) : word ∈ words.map (·.1) :=
    List.mem_map_of_mem (Keyed.mem_of_lookup found)
  constructor <;> rw [telling_members]
  · exact distinct
  · simp [members]
  · simpa [members] using known (Method.lookup_word _)
  · simpa [members] using known (Auth.lookup_word _)
  · simpa [members] using known (Grammar.lookup_word _)

/-- The members of a connection tell of the connection. -/
theorem ofMembers_members (connection : Connection) : ofMembers connection.members = connection := by
  simp [ofMembers, members, wordOf?, textOf?_cons, Method.lookup_word, Auth.lookup_word, Grammar.lookup_word]

/-- The connections of a list are read back from what the list writes, in their order. -/
theorem parseAll_written (connections : List Connection) :
    parseAll (Json.array (connections.map toJson)).pretty = .ok connections := by
  have whole : Whole (.array (connections.map toJson)) := by
    rw [Whole, wholeItems_iff, List.forall_mem_map]
    intro connection _
    simp [toJson_eq, members, Whole, WholeMembers]
  have objects : connections.map toJson = (connections.map members).map .object := by
    rw [List.map_map]
    rfl
  have writes := writes_pretty whole
  rw [objects] at writes
  have records : ∀ listed ∈ connections.map members, IsRecord listed := by
    rw [List.forall_mem_map]
    exact fun connection _ => connection.isRecord_members
  rw [objects, parseAll_writes records writes, List.map_map]
  simp [Function.comp_def, ofMembers_members]

end Connection

namespace Registry

/-- A registry that files connections under their own names is given by the list of them. -/
theorem entries_eq {registry : Registry} (keyed : ∀ entry ∈ registry.entries, entry.1 = entry.2.name) :
    registry.entries = registry.toList.map fun connection => (connection.name, connection) := by
  rw [toList, List.map_map]
  conv_lhs => rw [← List.map_id registry.entries]
  exact List.map_congr_left fun entry member => Prod.ext (keyed entry member) rfl

/-- Filing a connection under a name that is not held puts it behind all others. -/
theorem put_new {registry : Registry} {connection : Connection}
    (free : connection.name ∉ registry.entries.map (·.1)) :
    registry.put connection = ⟨registry.entries ++ [(connection.name, connection)]⟩ := by
  rw [put, if_neg fun held => free (holds_iff.mp held)]

/-- The list of a sound registry makes the registry again. -/
theorem Sound.ofList_toList {registry : Registry} (sound : registry.Sound) :
    ofList registry.toList = registry := by
  -- Each connection finds its name free among those that were put before it.
  have general : ∀ (entries : List (String × Connection)) (connections : List Connection),
      (entries.map (·.1) ++ connections.map (·.name)).Nodup →
      (∀ connection ∈ connections, Text.allBlank connection.name = false) →
      connections.foldl (fun registry connection =>
          if Text.allBlank connection.name then registry else registry.put connection)
          (Registry.mk entries) =
        ⟨entries ++ connections.map fun connection => (connection.name, connection)⟩ := by
    intro entries connections
    induction connections generalizing entries with
    | nil => simp
    | cons connection others ih =>
      intro distinct named
      have filled : Text.allBlank connection.name = false := named _ List.mem_cons_self
      have free : connection.name ∉ entries.map (·.1) := fun member =>
        List.disjoint_of_nodup_append distinct member List.mem_cons_self
      rw [List.foldl_cons, filled, if_neg Bool.false_ne_true, put_new free,
        ih _ (by simpa using distinct) fun other member => named other (List.mem_cons_of_mem _ member)]
      simp
  have made := general [] registry.toList sound.distinct sound.named
  rw [ofList, empty, made, List.nil_append, ← entries_eq sound.keyed]

/-- The text of a sound registry is read back as the registry. -/
theorem Sound.parse_write {registry : Registry} (sound : registry.Sound) :
    parse registry.write = .ok registry := by
  rw [parse, write, toJson, Connection.parseAll_written]
  simp [sound.ofList_toList]

end Registry

end Placard
