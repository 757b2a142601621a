import Placard.Proofs.Connection.Members
import Placard.Registry.Record

/-! Registries in files by any hand: what is read is what the records tell, however they are written. -/

namespace Placard

namespace Connection

open Json

variable {members others : List (String × Json)}

/-- What is looked up under the key of a field is looked up among the members that tell something. -/
theorem textOf?_telling {key : String} (field : key ∈ fieldKeys) (members : List (String × Json)) :
    textOf? key (telling members) = textOf? key members := by
  rw [textOf?, telling, Keyed.lookup_filter _ (fun _ => by simpa using field), textOf?]

/-- Members make a record when others that tell the same do, in whatever order. -/
theorem IsRecord.perm (record : IsRecord members) (same : (telling others).Perm (telling members)) :
    IsRecord others :=
  ⟨(same.map _).nodup_iff.mpr record.once, fun member among => record.texts member (same.subset among),
    fun word among => record.method word (same.subset among),
    fun word among => record.auth word (same.subset among),
    fun word among => record.grammar word (same.subset among)⟩

/-- Neither the order of members nor those that tell nothing change the connection of which they tell. -/
theorem IsRecord.ofMembers_perm (record : IsRecord members)
    (same : (telling others).Perm (telling members)) : ofMembers others = ofMembers members := by
  -- A connection is made of what stands under the keys of its fields, and each of these stands there once.
  have found : ∀ key ∈ fieldKeys, textOf? key others = textOf? key members := fun key field => by
    rw [← textOf?_telling field, ← textOf?_telling field members, textOf?,
      Keyed.lookup_perm record.once same key, textOf?]
  simp only [fieldKeys, List.forall_mem_cons] at found
  simp only [ofMembers, wordOf?, found]

end Connection

namespace Registry

/-- Records that tell the same one by one, in whatever order each, tell of the same connections. -/
def TellAlike (otherObjects objects : List (List (String × Json))) : Prop :=
  List.Forall₂ (fun others members => (Connection.telling others).Perm (Connection.telling members))
    otherObjects objects

/-- What tells the same as records is records of the same connections. -/
theorem TellAlike.records {otherObjects objects : List (List (String × Json))}
    (alike : TellAlike otherObjects objects) (records : ∀ members ∈ objects, Connection.IsRecord members) :
    (∀ others ∈ otherObjects, Connection.IsRecord others) ∧
      otherObjects.map Connection.ofMembers = objects.map Connection.ofMembers := by
  induction alike with
  | nil => exact ⟨records, rfl⟩
  | cons first _ ih =>
    rw [List.forall_mem_cons] at records
    obtain ⟨rest, equal⟩ := ih records.2
    refine ⟨List.forall_mem_cons.mpr ⟨records.1.perm first, rest⟩, ?_⟩
    rw [List.map_cons, List.map_cons, records.1.ofMembers_perm first, equal]

/-- A text that writes records is read as the registry of the connections of which they tell. -/
theorem parse_writes {text : String} {objects : List (List (String × Json))}
    (writes : Json.Writes text (.array (objects.map .object)))
    (records : ∀ members ∈ objects, Connection.IsRecord members) :
    parse text = .ok (ofList (objects.map Connection.ofMembers)) := by
  rw [parse, Connection.parseAll_writes records writes]
  rfl

/-- Every array of records is read as the registry of the connections of which they tell.

A record may hold its fields in any order, leave them out, and put anything under other keys, with any
gaps and escapes: as long as the records tell the same, the same registry is read. -/
theorem parse_records {text : String} {objects : List (List (String × Json))}
    (writes : Json.Writes text (.array (objects.map .object)))
    (records : ∀ members ∈ objects, Connection.IsRecord members) :
    parse text = .ok (ofList (objects.map Connection.ofMembers)) ∧
    ∀ (otherText : String) (otherObjects : List (List (String × Json))),
      Json.Writes otherText (.array (otherObjects.map .object)) → TellAlike otherObjects objects →
      parse otherText = parse text := by
  refine ⟨parse_writes writes records, fun otherText otherObjects otherWrites alike => ?_⟩
  obtain ⟨otherRecords, same⟩ := alike.records records
  rw [parse_writes otherWrites otherRecords, parse_writes writes records, same]

/-- An escaped name, a note with a name of its own inside, and a verb in lower case, tell of one connection. -/
theorem parse_records_noted :
    parse "[\x7b \"Name\" : \"\\u0042\",\"Note\":[\x7b\"Name\":true\x7d],\"Method\":\"post\"\x7d]" =
      .ok ⟨[("B", { name := "B", method := .post })]⟩ ∧
    parse "[\x7b\"Method\":\"post\",\"Name\":\"B\"\x7d]" =
      parse "[\x7b \"Name\" : \"\\u0042\",\"Note\":[\x7b\"Name\":true\x7d],\"Method\":\"post\"\x7d]" := by
  let noted := [("Note", Json.array [.object [("Name", .bool true)]]), ("Method", .string "post")]
  let objects := [("Name", Json.string "B") :: noted]
  let otherObjects := [[("Method", Json.string "post"), ("Name", .string "B")]]
  -- The name stands between blanks, by the code of its letter; all else is as the writer puts it.
  have code : Json.SpellsChar ['\\', 'u', '0', '0', '4', '2'] (.ofNat 0x42) := .code rfl ⟨rfl, rfl⟩
  have name : Json.StringText "B" _ := ⟨_, .next code .done, rfl⟩
  have later : Json.WrittenMembers false noted _ :=
    Json.writtenMembers_compactMembers false (by simp [noted, Json.Whole, Json.WholeItems, Json.WholeMembers])
  have only : Json.Written (.object (("Name", .string "B") :: noted)) _ :=
    ⟨_, [], ⟨[], [' '], _, [' '], [' '], _, _, Json.gap_nil, Json.gap_blank, Json.stringText_quote "Name",
      Json.gap_blank, Json.gap_blank, name, later, rfl⟩, Json.gap_nil, rfl⟩
  have writes : Json.Writes
      "[\x7b \"Name\" : \"\\u0042\",\"Note\":[\x7b\"Name\":true\x7d],\"Method\":\"post\"\x7d]"
      (.array (objects.map .object)) :=
    ⟨[], _, [], Json.gap_nil, ⟨_, [], ⟨[], [], _, [], Json.gap_nil, Json.gap_nil, only, rfl, rfl⟩,
      Json.gap_nil, rfl⟩, Json.gap_nil, rfl⟩
  have otherWrites : Json.Writes "[\x7b\"Method\":\"post\",\"Name\":\"B\"\x7d]"
      (.array (otherObjects.map .object)) :=
    Json.writes_compact (by simp [otherObjects, Json.Whole, Json.WholeItems, Json.WholeMembers])
  have records : ∀ members ∈ objects, Connection.IsRecord members := by
    simp only [objects, List.forall_mem_singleton]
    constructor <;> simp [noted, Connection.telling, Connection.fieldKeys, Method.spellings]
  have alike : TellAlike otherObjects objects := .cons (.swap _ _ _) .nil
  have told : ofList (objects.map Connection.ofMembers) = ⟨[("B", { name := "B", method := .post })]⟩ := by
    decide +kernel
  exact ⟨told ▸ (parse_records writes records).1, (parse_records writes records).2 _ _ otherWrites alike⟩

end Registry

end Placard
