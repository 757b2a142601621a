import Placard.Json.Value
import Placard.Decimal.Layout
import Placard.Text.Quoted
import Placard.Text.Split
import Placard.Text.Utf8

/-! What can be wrong with a JSON text, where it is wrong, and how that is told. -/

namespace Placard.Json

/-- What stands in a text where something else was wanted. -/
inductive Found
  | null
  | bool (value : Bool)
  | number (value : Number)
  | string (value : String)
  | sequence
  | map
deriving Repr, Inhabited

/-- The wording of what was found. -/
def Found.describe : Found → String
  | null => "null"
  | bool true => "boolean `true`"
  | bool false => "boolean `false`"
  | number (.integer value) => "integer `" ++ toString value ++ "`"
  | number (.float value) => "floating point `" ++ Decimal.json.write value ++ "`"
  | string value => "string " ++ Text.quoted value
  | sequence => "sequence"
  | map => "map"

/-- Why a text is not the JSON that was wanted. -/
inductive Cause
  | endInList
  | endInObject
  | endInString
  | endInValue
  | colonWanted
  | listCommaWanted
  | objectCommaWanted
  | wordWanted
  | valueWanted
  | badEscape
  | badNumber
  | numberRange
  | controlCharacter
  | keyNotString
  | loneSurrogate
  | trailingComma
  | trailingText
  | brokenPair
  | tooDeep
  | mismatch (found : Found) (wanted : String)
  | unknownWord (word : String) (known : List String)
  | repeatedKey (key : String)
deriving Repr, Inhabited

/-- Words in backticks, joined for a sentence. -/
def oneOf (known : List String) : String :=
  let ticked := known.map fun word => "`" ++ word ++ "`"
  match ticked with
  | [only] => only
  | [first, second] => first ++ " or " ++ second
  | many => "one of " ++ Text.joinWith ", " many

/-- The wording of a cause. -/
def Cause.message : Cause → String
  | endInList => "EOF while parsing a list"
  | endInObject => "EOF while parsing an object"
  | endInString => "EOF while parsing a string"
  | endInValue => "EOF while parsing a value"
  | colonWanted => "expected `:`"
  | listCommaWanted => "expected `,` or `]`"
  | objectCommaWanted => "expected `,` or `\x7d`"
  | wordWanted => "expected ident"
  | valueWanted => "expected value"
  | badEscape => "invalid escape"
  | badNumber => "invalid number"
  | numberRange => "number out of range"
  | controlCharacter => "control character (\\u0000-\\u001F) found while parsing a string"
  | keyNotString => "key must be a string"
  | loneSurrogate => "lone leading surrogate in hex escape"
  | trailingComma => "trailing comma"
  | trailingText => "trailing characters"
  | brokenPair => "unexpected end of hex escape"
  | tooDeep => "recursion limit exceeded"
  | mismatch found wanted => "invalid type: " ++ found.describe ++ ", expected " ++ wanted
  | unknownWord word known => "unknown variant `" ++ word ++ "`, expected " ++ oneOf known
  | repeatedKey key => "duplicate field `" ++ key ++ "`"

/-- A fault is a cause at a place, given by the number of bytes that remained unread. -/
structure Fault where
  cause : Cause
  unread : Nat
deriving Repr, Inhabited

/-- A fault just before the characters that remain. -/
def Fault.before (cause : Cause) (rest : List Char) : Fault :=
  ⟨cause, Text.byteLength rest⟩

/-- A fault charged to the first byte of the characters that remain. -/
def Fault.on (cause : Cause) (rest : List Char) : Fault :=
  ⟨cause, Text.byteLength rest - 1⟩

/-- The number of the last line that bytes reach, and the number of bytes on it. -/
def lineAndColumn (read : List UInt8) : Nat × Nat :=
  let newlines := read.count 10
  (newlines + 1, (read.reverse.takeWhile (· != 10)).length)

/-- The wording of a fault in a text, with its place. -/
def Fault.message (fault : Fault) (text : String) : String :=
  let all := Text.bytes text.toList
  let (line, column) := lineAndColumn (all.take (all.length - fault.unread))
  fault.cause.message ++ " at line " ++ toString line ++ " column " ++ toString column

end Placard.Json
