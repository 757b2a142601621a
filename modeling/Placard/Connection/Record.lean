import Placard.Connection
import Placard.Json.Reader
import Placard.Json.Writer

/-! Connections as JSON records, the form in which they are kept in a file. -/

namespace Placard.Connection

/-- A connection as a record, with its fields in a fixed order. -/
def toJson (connection : Connection) : Json :=
  .object [
    ("Name", .string connection.name),
    ("Url", .string connection.url),
    ("Method", .string connection.method.word),
    ("AuthType", .string connection.auth.word),
    ("Username", .string connection.username),
    ("PasswordOrToken", .string connection.secret),
    ("JsonKey", .string connection.jsonPath),
    ("ContentType", .string connection.grammar.word),
    ("RegexPattern", .string connection.pattern)]

open Json

/-- Reads a string into a connection. -/
def readInto (put : String → Connection) (text : List Char) :
    Except Fault (Connection × List Char) :=
  (readText "a string" text).map fun (value, rest) => (put value, rest)

/-- Reads one of several words into a connection. -/
def chooseInto {α : Type} (known : List (String × α)) (put : α → Connection)
    (text : List Char) : Except Fault (Connection × List Char) :=
  (readKnown known text).map fun (value, rest) => (put value, rest)

/-- A field of a record: its key, and how its value is read into a connection. -/
structure Field where
  key : String
  read : Connection → List Char → Except Fault (Connection × List Char)

/-- The fields of a record in their order. -/
def fields : List Field := [
  ⟨"Name", fun held => readInto fun value => { held with name := value }⟩,
  ⟨"Url", fun held => readInto fun value => { held with url := value }⟩,
  ⟨"Method", fun held => chooseInto Method.spellings fun value => { held with method := value }⟩,
  ⟨"AuthType", fun held => chooseInto Auth.spellings fun value => { held with auth := value }⟩,
  ⟨"Username", fun held => readInto fun value => { held with username := value }⟩,
  ⟨"PasswordOrToken", fun held => readInto fun value => { held with secret := value }⟩,
  ⟨"JsonKey", fun held => readInto fun value => { held with jsonPath := value }⟩,
  ⟨"ContentType", fun held => chooseInto Grammar.spellings fun value => { held with grammar := value }⟩,
  ⟨"RegexPattern", fun held => readInto fun value => { held with pattern := value }⟩]

/-- The fault of a key that came before, told before the next part of the record. -/
private def repeated (key : String) (rest : List Char) : Fault :=
  match skipSpace rest with
  | '}' :: after => .before (.repeatedKey key) after
  | after => .before (.repeatedKey key) after

/-- Reads the members of a record up to its end; the fuel bounds their number.

Keys that name no field are passed over with their values, and no field may come twice. -/
def readRecordMembers (fuel : Nat) (first : Bool) (seen : List String) (held : Connection)
    (text : List Char) : Except Fault (Connection × List Char) :=
  match fuel with
  | 0 => .error (.before .endInObject text)
  | fuel + 1 => do
    match ← nextKey first text with
    | (false, after) => return (held, after)
    | (true, keyed) =>
      let (letters, afterKey) ← readString keyed
      let key := String.ofList letters
      match fields.find? (·.key == key) with
      | none =>
        let after ← readColon afterKey
        readRecordMembers fuel false seen held (← skipValue after.length after)
      | some field =>
        if seen.contains key then throw (repeated key afterKey)
        let (next, after) ← field.read held (← readColon afterKey)
        readRecordMembers fuel false (key :: seen) next after

/-- Wants the end of a record that is written without keys. -/
private def endPositions (text : List Char) : Except Fault (List Char) :=
  match skipSpace text with
  | ']' :: rest => .ok rest
  | ',' :: rest =>
    match skipSpace rest with
    | ']' :: after => .error (.on .trailingComma (']' :: after))
    | after => .error (.on .trailingText after)
  | [] => .error (.before .endInList [])
  | other => .error (.on .trailingText other)

/-- Reads the fields of a record that is written without keys, in their order. -/
def readPositions (first : Bool) (held : Connection) (text : List Char) :
    List Field → Except Fault (Connection × List Char)
  | [] => (endPositions text).map fun rest => (held, rest)
  | field :: others => do
    match ← nextItem first text with
    | (false, after) => return (held, after)
    | (true, rest) =>
      let (next, after) ← field.read held rest
      readPositions false next after others

/-- Reads one record; fields that are left out keep their usual values. -/
def readRecord (text : List Char) : Except Fault (Connection × List Char) :=
  match skipSpace text with
  | '{' :: rest => readRecordMembers (rest.length + 1) true [] {} rest
  | '[' :: rest => readPositions true {} rest fields
  | other => mismatch "struct Connection" other

/-- Reads the records of an array up to its end; the fuel bounds their number. -/
def readRecords (fuel : Nat) (first : Bool) (text : List Char) :
    Except Fault (List Connection × List Char) :=
  match fuel with
  | 0 => .error (.before .endInList text)
  | fuel + 1 => do
    match ← nextItem first text with
    | (false, after) => return ([], after)
    | (true, rest) =>
      let (record, after) ← readRecord rest
      let (others, done) ← readRecords fuel false after
      return (record :: others, done)

/-- The connection that a whole text writes. -/
def parse (text : String) : Except Fault Connection :=
  readRecord text.toList >>= readEnd

/-- The connections that a whole text writes. -/
def parseAll (text : String) : Except Fault (List Connection) :=
  (match skipSpace text.toList with
    | '[' :: rest => readRecords (rest.length + 1) true rest
    | other => mismatch "a sequence" other) >>= readEnd

end Placard.Connection
