import Placard.Connection.Record
import Placard.Proofs.Json.Complete
import Placard.Proofs.Json.Skipped
import Placard.Proofs.Keyed

/-! Records by any hand: what their members tell of a connection, in any order and among any others. -/

namespace Placard.Connection

open Json

/-! ### What members tell -/

/-- The keys that tell something of a connection. -/
def fieldKeys : List String :=
  ["Name", "Url", "Method", "AuthType", "Username", "PasswordOrToken", "JsonKey", "ContentType",
    "RegexPattern"]

/-- The members that tell something of a connection, as opposed to those with any other key. -/
def telling (members : List (String × Json)) : List (String × Json) :=
  members.filter fun member => fieldKeys.contains member.1

/-- The text that stands under a key, where a text stands there. -/
def textOf? (key : String) (members : List (String × Json)) : Option String :=
  match members.lookup key with
  | some (.string text) => some text
  | _ => none

/-- What the word under a key stands for, where the word is known. -/
def wordOf? {α : Type} (known : List (String × α)) (key : String) (members : List (String × Json)) :
    Option α :=
  (textOf? key members).bind fun word => known.lookup word

/-- The connection of which members tell; where they are silent, it is as usual. -/
def ofMembers (members : List (String × Json)) : Connection where
  name := (textOf? "Name" members).getD ""
  url := (textOf? "Url" members).getD ""
  method := (wordOf? Method.spellings "Method" members).getD .get
  auth := (wordOf? Auth.spellings "AuthType" members).getD .none
  username := (textOf? "Username" members).getD ""
  secret := (textOf? "PasswordOrToken" members).getD ""
  jsonPath := (textOf? "JsonKey" members).getD ""
  grammar := (wordOf? Grammar.spellings "ContentType" members).getD .json
  pattern := (textOf? "RegexPattern" members).getD ""

/-- Members make a record: each field at most once, with a text, and with a known word where one is wanted. -/
structure IsRecord (members : List (String × Json)) : Prop where
  once : ((telling members).map (·.1)).Nodup
  texts : ∀ member ∈ telling members, ∃ text, member.2 = .string text
  method : ∀ word, ("Method", .string word) ∈ telling members → word ∈ Method.spellings.map (·.1)
  auth : ∀ word, ("AuthType", .string word) ∈ telling members → word ∈ Auth.spellings.map (·.1)
  grammar : ∀ word, ("ContentType", .string word) ∈ telling members → word ∈ Grammar.spellings.map (·.1)

/-- A connection with what members tell of it; where they are silent, it stays as it is. -/
def completed (held : Connection) (members : List (String × Json)) : Connection where
  name := (textOf? "Name" members).getD held.name
  url := (textOf? "Url" members).getD held.url
  method := (wordOf? Method.spellings "Method" members).getD held.method
  auth := (wordOf? Auth.spellings "AuthType" members).getD held.auth
  username := (textOf? "Username" members).getD held.username
  secret := (textOf? "PasswordOrToken" members).getD held.secret
  jsonPath := (textOf? "JsonKey" members).getD held.jsonPath
  grammar := (wordOf? Grammar.spellings "ContentType" members).getD held.grammar
  pattern := (textOf? "RegexPattern" members).getD held.pattern

/-- The usual connection is completed to the one of which members tell. -/
theorem completed_usual (members : List (String × Json)) : completed {} members = ofMembers members := rfl

/-- Without members, a connection stays as it is. -/
theorem completed_nil (held : Connection) : held.completed [] = held := rfl

/-! ### One member more -/

/-- A member with the key of a field is among those that tell something. -/
theorem telling_cons_of_field {key : String} (field : key ∈ fieldKeys) (value : Json)
    (others : List (String × Json)) :
    telling ((key, value) :: others) = (key, value) :: telling others :=
  List.filter_cons_of_pos (by simpa using field)

/-- The members behind the first of a record make a record. -/
theorem IsRecord.tail {member : String × Json} {others : List (String × Json)}
    (record : IsRecord (member :: others)) : IsRecord others := by
  have fewer : (telling others).Sublist (telling (member :: others)) :=
    (List.sublist_cons_self member others).filter _
  exact ⟨record.once.sublist (fewer.map _), fun other among => record.texts other (fewer.subset among),
    fun word among => record.method word (fewer.subset among),
    fun word among => record.auth word (fewer.subset among),
    fun word among => record.grammar word (fewer.subset among)⟩

/-- The first field of a record does not come again. -/
theorem IsRecord.fresh {key : String} {value : Json} {others : List (String × Json)}
    (record : IsRecord ((key, value) :: others)) (field : key ∈ fieldKeys) : key ∉ others.map (·.1) := by
  -- If it did, its key would stand twice among those that tell something.
  have once := record.once
  rw [telling_cons_of_field field, List.map_cons, List.nodup_cons] at once
  intro again
  obtain ⟨other, among, same⟩ := List.mem_map.mp again
  have tells : other ∈ telling others := List.mem_filter.mpr ⟨among, by simpa [same] using field⟩
  exact once.1 (List.mem_map.mpr ⟨other, tells, same⟩)

/-- Under a key stands the text of the first member, if the key is its own. -/
theorem textOf?_cons (key name text : String) (others : List (String × Json)) :
    textOf? key ((name, .string text) :: others) = if key = name then some text else textOf? key others := by
  by_cases own : key = name
  · subst own
    simp [textOf?]
  · simp [textOf?, List.lookup_cons, beq_false_of_ne own, own]

/-- A member with another key does not change what stands under a key. -/
theorem textOf?_cons_of_ne {key name : String} (other : key ≠ name) (value : Json)
    (others : List (String × Json)) : textOf? key ((name, value) :: others) = textOf? key others := by
  simp [textOf?, List.lookup_cons, beq_false_of_ne other]

/-- Under a key that no member has, no text stands. -/
theorem textOf?_absent {key : String} {members : List (String × Json)} (absent : key ∉ members.map (·.1)) :
    textOf? key members = none := by
  have missed : members.lookup key = none := List.lookup_eq_none_iff.mpr fun member among => by
    rw [bne_iff_ne]
    rintro rfl
    exact absent (List.mem_map_of_mem among)
  rw [textOf?, missed]

/-- A member that tells nothing completes no connection. -/
theorem completed_silent {key : String} (silent : key ∉ fieldKeys) (held : Connection) (value : Json)
    (others : List (String × Json)) : held.completed ((key, value) :: others) = held.completed others := by
  have passed : ∀ field ∈ fieldKeys, textOf? field ((key, value) :: others) = textOf? field others :=
    fun field among => textOf?_cons_of_ne (ne_of_mem_of_not_mem among silent) value others
  simp only [fieldKeys, List.forall_mem_cons] at passed
  simp only [completed, wordOf?, passed]

/-! ### Reading one member -/

/-- A key that tells something is the key of a field, and no other key is. -/
theorem mem_fieldKeys_iff (key : String) :
    key ∈ fieldKeys ↔ ∃ field, fields.find? (·.key == key) = some field := by
  have same : fieldKeys = fields.map (·.key) := rfl
  rw [← Option.isSome_iff_exists, List.find?_isSome, same, List.mem_map]
  simp only [beq_iff_eq]

/-- A known word stands for something. -/
theorem exists_lookup {α : Type} {known : List (String × α)} {word : String}
    (listed : word ∈ known.map (·.1)) : ∃ meaning, known.lookup word = some meaning := by
  obtain ⟨entry, among, rfl⟩ := List.mem_map.mp listed
  exact Option.isSome_iff_exists.mp (List.lookup_isSome_iff.mpr ⟨entry, among, beq_self_eq_true _⟩)

/-- A text is read into its field, however it is written. -/
theorem readInto_written (put : String → Connection) {gap shown : List Char} (blank : Gap gap)
    {text : String} (written : StringText text shown) (rest : List Char) :
    readInto put (gap ++ (shown ++ rest)) = .ok (put text, rest) := by
  rw [readInto, readText_written blank _ written]
  rfl

/-- A known word is read into its field as what it stands for, however it is written. -/
theorem chooseInto_written {α : Type} {known : List (String × α)} {word : String} {meaning : α}
    (found : known.lookup word = some meaning) (put : α → Connection) {gap shown : List Char}
    (blank : Gap gap) (written : StringText word shown) (rest : List Char) :
    chooseInto known put (gap ++ (shown ++ rest)) = .ok (put meaning, rest) := by
  rw [chooseInto, readKnown_written blank found written]
  rfl

/-- The first field of a record is read, and the others complete what it leaves to the same connection. -/
theorem IsRecord.read_first {key : String} {value : Json} {others : List (String × Json)}
    (record : IsRecord ((key, value) :: others)) {field : Field}
    (known : fields.find? (·.key == key) = some field) (held : Connection) {gap shown : List Char}
    (blank : Gap gap) (written : Written value shown) (rest : List Char) :
    ∃ next, field.read held (gap ++ (shown ++ rest)) = .ok (next, rest) ∧
      next.completed others = held.completed ((key, value) :: others) := by
  -- The member tells something, so it holds a text, and its key does not come again.
  have same : field.key = key := by simpa using List.find?_some known
  have listed : field ∈ fields := List.mem_of_find?_eq_some known
  have isField : key ∈ fieldKeys := (mem_fieldKeys_iff key).mpr ⟨field, known⟩
  have absent := textOf?_absent (record.fresh isField)
  have first : (key, value) ∈ telling ((key, value) :: others) := by
    rw [telling_cons_of_field isField]
    exact List.mem_cons_self
  obtain ⟨text, rfl⟩ : ∃ text, value = .string text := record.texts _ first
  rw [Written] at written
  have text_ (put : String → Connection) := readInto_written put blank written rest
  have word_ {α : Type} {words : List (String × α)} (wanted : text ∈ words.map (·.1)) :
      ∃ meaning, words.lookup text = some meaning ∧ ∀ put : α → Connection,
        chooseInto words put (gap ++ (shown ++ rest)) = .ok (put meaning, rest) := by
    obtain ⟨meaning, found⟩ := exists_lookup wanted
    exact ⟨meaning, found, fun put => chooseInto_written found put blank written rest⟩
  subst same
  simp only [fields, List.mem_cons, List.not_mem_nil, or_false] at listed
  rcases listed with rfl | rfl | rfl | rfl | rfl | rfl | rfl | rfl | rfl
  all_goals dsimp only at *
  -- Six fields take the text itself, and three what the word stands for.
  any_goals exact ⟨_, text_ _, by simp [completed, wordOf?, textOf?_cons, absent]⟩
  · obtain ⟨meaning, found, read⟩ := word_ (record.method text first)
    exact ⟨_, read _, by simp [completed, wordOf?, textOf?_cons, absent, found]⟩
  · obtain ⟨meaning, found, read⟩ := word_ (record.auth text first)
    exact ⟨_, read _, by simp [completed, wordOf?, textOf?_cons, absent, found]⟩
  · obtain ⟨meaning, found, read⟩ := word_ (record.grammar text first)
    exact ⟨_, read _, by simp [completed, wordOf?, textOf?_cons, absent, found]⟩

/-! ### Reading a record -/

/-- One member is read off the front of a record, and the others complete what it leaves.

A key that is seen from then on was seen before or does not come again. -/
theorem IsRecord.step {key : String} {value : Json} {others : List (String × Json)}
    (record : IsRecord ((key, value) :: others)) (first : Bool)
    {before after name between space shown rest : List Char} (blankBefore : Gap before)
    (blankAfter : Gap after) (named : StringText key name) (blankBetween : Gap between)
    (blankSpace : Gap space) (own : Written value shown) (ended : Ended rest) (fuel : Nat)
    {seen : List String} (fresh : key ∉ seen) (held : Connection) :
    ∃ next later, readRecordMembers (fuel + 1) first seen held
        (before ++ (comma first ++ after ++ name ++ between ++ ':' :: space ++ shown) ++ rest) =
          readRecordMembers fuel false later next rest ∧
      next.completed others = held.completed ((key, value) :: others) ∧
      ∀ other ∈ later, other ∈ seen ∨ other ∉ others.map (·.1) := by
  -- The key is read up to the colon, and decides how the value is read.
  obtain ⟨marked, front, keyed⟩ := nextKey_written first blankBefore blankAfter named between space shown rest
  rw [readRecordMembers, front]
  simp only [ok_bind, keyed, String.ofList_toList, readColon_gap blankBetween]
  cases known : fields.find? (·.key == key) with
  | none =>
    -- The value is passed over, with all the text behind the colon as fuel.
    have silent : key ∉ fieldKeys := fun field => by
      obtain ⟨_, found⟩ := (mem_fieldKeys_iff key).mp field
      cases known.symm.trans found
    have room : shown.length ≤ (space ++ (shown ++ rest)).length := by
      simp only [List.length_append]
      omega
    have passed := skipValue_written own blankSpace room ended
    refine ⟨held, seen, ?_, (completed_silent silent held value others).symm, fun other among => .inl among⟩
    simp only [passed, ok_bind]
  | some field =>
    have isField : key ∈ fieldKeys := (mem_fieldKeys_iff key).mpr ⟨field, known⟩
    have new : seen.contains key = false := by
      rw [List.contains_eq_mem, decide_eq_false_iff_not]
      exact fresh
    obtain ⟨next, read, completes⟩ := record.read_first known held blankSpace own rest
    refine ⟨next, key :: seen, ?_, completes, fun other among => ?_⟩
    · simp only [new, Bool.false_eq_true, if_false, read, ok_bind]
    · rcases List.mem_cons.mp among with rfl | earlier
      · exact .inr (record.fresh isField)
      · exact .inl earlier

/-- The members of a record complete the connection that is held, up to the end of the record. -/
theorem readRecordMembers_written {members : List (String × Json)} (record : IsRecord members)
    {first : Bool} {text : List Char} (written : WrittenMembers first members text) {gap : List Char}
    (blank : Gap gap) {fuel : Nat} (fuelled : text.length < fuel) {seen : List String}
    (fresh : ∀ key ∈ seen, key ∉ members.map (·.1)) (held : Connection) (rest : List Char) :
    readRecordMembers fuel first seen held (text ++ (gap ++ '}' :: rest)) =
      .ok (held.completed members, rest) := by
  -- What was seen never comes again among the members that are left.
  induction members generalizing first text fuel seen held with
  | nil =>
    rw [WrittenMembers] at written
    obtain ⟨fuel, rfl⟩ := Nat.exists_eq_succ_of_ne_zero (Nat.ne_zero_of_lt fuelled)
    rw [written, List.nil_append, readRecordMembers, nextKey_end first blank, completed_nil]
    rfl
  | cons member others ih =>
    obtain ⟨key, value⟩ := member
    rw [WrittenMembers] at written
    obtain ⟨before, after, name, between, space, shown, more, blankBefore, blankAfter, named, blankBetween,
      blankSpace, own, later, rfl⟩ := written
    obtain ⟨fuel, rfl⟩ := Nat.exists_eq_succ_of_ne_zero (Nat.ne_zero_of_lt fuelled)
    have filled := own.length_pos
    have enough : more.length < fuel := by
      simp only [List.length_append, List.length_cons] at fuelled
      omega
    have ended := later.ended (Ended.gap blank (ended_mark (.inr (.inr rfl)) rest))
    obtain ⟨next, nextSeen, step, completes, apart⟩ := record.step first blankBefore blankAfter named
      blankBetween blankSpace own ended fuel (fun again => fresh key again List.mem_cons_self) held
    rw [List.append_assoc, step, ← completes]
    refine ih record.tail later enough (fun other among listed => ?_) next
    rcases apart other among with earlier | absent
    · exact fresh other earlier (List.mem_cons_of_mem _ listed)
    · exact absent listed

/-- A record is read as the connection of which its members tell. -/
theorem readRecord_written {members : List (String × Json)} (record : IsRecord members)
    {text : List Char} (written : Written (.object members) text) (rest : List Char) :
    readRecord (text ++ rest) = .ok (ofMembers members, rest) := by
  rw [Written] at written
  obtain ⟨body, gap, inside, blank, rfl⟩ := written
  have shape : '{' :: (body ++ gap) ++ ['}'] ++ rest = '{' :: (body ++ (gap ++ '}' :: rest)) := by simp
  rw [shape, readRecord, skipSpace_solid (solid_cons rfl), ← completed_usual]
  refine readRecordMembers_written record inside blank ?_ (by simp) {} rest
  rw [List.length_append]
  omega

/-- Records are read one after another, up to the end of the array. -/
theorem readRecords_written {objects : List (List (String × Json))}
    (each : ∀ members ∈ objects, IsRecord members) {first : Bool} {text : List Char}
    (written : WrittenItems first (objects.map .object) text) {gap : List Char} (blank : Gap gap)
    {fuel : Nat} (fuelled : text.length < fuel) (rest : List Char) :
    readRecords fuel first (text ++ (gap ++ ']' :: rest)) = .ok (objects.map ofMembers, rest) := by
  -- Each record takes a step, and at least one character of the text.
  induction objects generalizing first text fuel with
  | nil =>
    rw [List.map_nil, WrittenItems] at written
    obtain ⟨fuel, rfl⟩ := Nat.exists_eq_succ_of_ne_zero (Nat.ne_zero_of_lt fuelled)
    rw [written, List.nil_append, readRecords, nextItem_end first blank]
    rfl
  | cons members others ih =>
    rw [List.map_cons, WrittenItems] at written
    obtain ⟨before, after, shown, more, blankBefore, blankAfter, own, later, rfl⟩ := written
    obtain ⟨fuel, rfl⟩ := Nat.exists_eq_succ_of_ne_zero (Nat.ne_zero_of_lt fuelled)
    have filled := own.length_pos
    have enough : more.length < fuel := by
      simp only [List.length_append] at fuelled
      omega
    have own_ : IsRecord members := each members List.mem_cons_self
    have others_ := ih (fun other among => each other (List.mem_cons_of_mem _ among)) later enough
    rw [List.append_assoc, readRecords, nextItem_written first blankBefore blankAfter own.head]
    simp only [ok_bind, readRecord_written own_ own, others_, pure_eq_ok, List.map_cons]

/-- Every text that writes an array of records is read as the connections of which they tell. -/
theorem parseAll_writes {objects : List (List (String × Json))} (each : ∀ members ∈ objects, IsRecord members)
    {text : String} (writes : Writes text (.array (objects.map .object))) :
    parseAll text = .ok (objects.map ofMembers) := by
  obtain ⟨before, written, after, blankBefore, own, blankAfter, same⟩ := writes
  rw [Written] at own
  obtain ⟨body, gap, inside, blank, rfl⟩ := own
  have shape : text.toList = before ++ '[' :: (body ++ (gap ++ ']' :: after)) := by simp [same]
  rw [parseAll, shape, skipSpace_gap blankBefore (solid_cons rfl)]
  have enough : body.length < (body ++ (gap ++ ']' :: after)).length + 1 := by
    rw [List.length_append]
    omega
  simp only [readRecords_written each inside blank enough, ok_bind, readEnd_gap blankAfter]

end Placard.Connection
