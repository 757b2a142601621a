import Placard.Json.Value
import Placard.Decimal.Layout

/-! JSON text: values written on one line, or with one item to a line. -/

namespace Placard.Json

/-- A character inside a JSON string: quotes, backslashes and controls are escaped, and nothing else. -/
def escapedChar (c : Char) : List Char :=
  match c with
  | '"' => ['\\', '"']
  | '\\' => ['\\', '\\']
  | '\x08' => ['\\', 'b']
  | '\x0c' => ['\\', 'f']
  | '\n' => ['\\', 'n']
  | '\r' => ['\\', 'r']
  | '\t' => ['\\', 't']
  | _ =>
    if c.toNat < 0x20 then
      ['\\', 'u', '0', '0', Nat.digitChar (c.toNat / 16), Nat.digitChar (c.toNat % 16)]
    else [c]

/-- The characters of a text inside a JSON string. -/
def escaped (text : List Char) : List Char :=
  text.flatMap escapedChar

/-- A JSON string with its quotation marks. -/
def quote (text : String) : List Char :=
  '"' :: escaped text.toList ++ ['"']

/-- A number in JSON text; what is no number is written as null. -/
def Number.write : Number → String
  | .integer value => toString value
  | .float value =>
    if value.isNaN || value.isInf then "null" else Decimal.json.write value

/-- The lists of characters with a comma between every two. -/
def commaJoined : List (List Char) → List Char
  | [] => []
  | [only] => only
  | first :: others => first ++ ',' :: commaJoined others

mutual

/-- The characters of a value written on one line. -/
def compactChars : Json → List Char
  | .null => "null".toList
  | .bool true => "true".toList
  | .bool false => "false".toList
  | .number value => value.write.toList
  | .string value => quote value
  | .array items => '[' :: commaJoined (compactItems items) ++ [']']
  | .object members => '{' :: commaJoined (compactMembers members) ++ ['}']

/-- The written items of an array. -/
def compactItems : List Json → List (List Char)
  | [] => []
  | item :: others => compactChars item :: compactItems others

/-- The written members of an object. -/
def compactMembers : List (String × Json) → List (List Char)
  | [] => []
  | (key, value) :: others =>
    (quote key ++ ':' :: compactChars value) :: compactMembers others

end

/-- A value written on one line. -/
def compact (value : Json) : String :=
  .ofList value.compactChars

/-- A new line with two blanks for every level around it. -/
def newLine (level : Nat) : List Char :=
  '\n' :: List.replicate (2 * level) ' '

/-- Items on lines of their own between two marks; without items the marks touch. -/
def block (level : Nat) (opening closing : Char) (items : List (List Char)) : List Char :=
  if items.isEmpty then [opening, closing]
  else opening :: commaJoined (items.map (newLine (level + 1) ++ ·)) ++ newLine level ++ [closing]

mutual

/-- The characters of a value with one item to a line, at a level of nesting. -/
def prettyChars (level : Nat) : Json → List Char
  | .null => "null".toList
  | .bool true => "true".toList
  | .bool false => "false".toList
  | .number value => value.write.toList
  | .string value => quote value
  | .array items => block level '[' ']' (prettyItems (level + 1) items)
  | .object members => block level '{' '}' (prettyMembers (level + 1) members)

/-- The written items of an array at a level of nesting. -/
def prettyItems (level : Nat) : List Json → List (List Char)
  | [] => []
  | item :: others => prettyChars level item :: prettyItems level others

/-- The written members of an object at a level of nesting. -/
def prettyMembers (level : Nat) : List (String × Json) → List (List Char)
  | [] => []
  | (key, value) :: others =>
    (quote key ++ ':' :: ' ' :: prettyChars level value) :: prettyMembers level others

end

/-- A value with one item to a line. -/
def pretty (value : Json) : String :=
  .ofList (value.prettyChars 0)

end Placard.Json
