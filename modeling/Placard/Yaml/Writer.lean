import Placard.Json.Value
import Placard.Decimal.Layout
import Placard.Yaml.Scalar

/-! JSON values as YAML text, one member or item to a line. -/

namespace Placard.Yaml

/-- A value that is written in one piece, with a margin for its lines. -/
def pieceChars (columns : Nat) : Json → List Char
  | .null => "null".toList
  | .bool true => "true".toList
  | .bool false => "false".toList
  | .number (.integer value) => (toString value).toList
  | .number (.float value) => (Decimal.yaml.write value).toList
  | .string text => write columns text (Style.ofText text)
  | .array _ => ['[', ']']
  | .object _ => ['{', '}']

/-- A piece with the end of its line, which a block of lines may have already. -/
def lineChars (columns : Nat) (value : Json) : List Char :=
  let written := pieceChars columns value
  if written.getLast?.any isBreak then written else written ++ ['\n']

/-- A key before its value; a key is never a block. -/
def keyChars (key : String) : List Char :=
  let style := if Style.ofText key == .block then .double else Style.ofText key
  write 0 key style ++ [':']

mutual

/-- The members of a mapping at a column; the first of them may stand on a line that has begun. -/
def memberChars (columns : Nat) (begun : Bool) : List (String × Json) → List Char
  | [] => []
  | (key, value) :: others =>
    (if begun then [] else margin columns) ++ keyChars key ++ afterKey columns value ++
      memberChars columns false others

/-- The items of a sequence at a column; the first of them may stand on a line that has begun. -/
def itemChars (columns : Nat) (begun : Bool) : List Json → List Char
  | [] => []
  | item :: others =>
    (if begun then [] else margin columns) ++ '-' :: ' ' :: afterDash columns item ++
      itemChars columns false others

/-- What follows a key: a sequence stays at the column of the key, a mapping goes further in. -/
def afterKey (columns : Nat) : Json → List Char
  | .array (item :: items) => '\n' :: itemChars columns false (item :: items)
  | .object (entry :: entries) => '\n' :: memberChars (columns + 2) false (entry :: entries)
  | value => ' ' :: lineChars (columns + 2) value

/-- What follows the dash of an item. -/
def afterDash (columns : Nat) : Json → List Char
  | .array (item :: items) => itemChars (columns + 2) true (item :: items)
  | .object (entry :: entries) => memberChars (columns + 2) true (entry :: entries)
  | value => lineChars (columns + 2) value

end

mutual

/-- The texts in a value in their order. -/
def texts : Json → List String
  | .string text => [text]
  | .array items => textsOfItems items
  | .object members => textsOfMembers members
  | _ => []

/-- The texts in the items of an array. -/
def textsOfItems : List Json → List String
  | [] => []
  | item :: others => texts item ++ textsOfItems others

/-- The texts in the members of an object. -/
def textsOfMembers : List (String × Json) → List String
  | [] => []
  | (_, value) :: others => texts value ++ textsOfMembers others

end

/-- Dots close a document whose last block keeps the empty lines at its end. -/
def closing (value : Json) : List Char :=
  match ((texts value).filter (Style.ofText · == .block)).getLast? with
  | some text => if keepsEnd text then ['.', '.', '.', '\n'] else []
  | none => []

/-- The text of a value. -/
def ofJson (value : Json) : String :=
  let body := match value with
    | .array (item :: items) => itemChars 0 false (item :: items)
    | .object (entry :: entries) => memberChars 0 false (entry :: entries)
    | piece => lineChars 2 piece
  .ofList (body ++ closing value)

end Placard.Yaml
