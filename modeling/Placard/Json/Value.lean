/-! JSON values, with the members of an object in the order in which they are written. -/

namespace Placard

/-- A number is a whole number of at most 64 bits, or a floating-point number. -/
inductive Json.Number
  | integer (value : Int)
  | float (value : Float)
deriving Repr, Inhabited

/-- A JSON value. -/
inductive Json
  | null
  | bool (value : Bool)
  | number (value : Json.Number)
  | string (value : String)
  | array (items : List Json)
  | object (members : List (String × Json))
deriving Repr, Inhabited

namespace Json

/-- A whole number as a value. -/
def nat (value : Nat) : Json := .number (.integer value)

/-- A text as a value, or null where there is none. -/
def text? : Option String → Json
  | some value => .string value
  | none => .null

/-- The value of a key among members. -/
def member? (key : String) : List (String × Json) → Option Json
  | [] => none
  | (name, value) :: others => if name = key then some value else member? key others

/-- Puts a member among members in rising order of keys; a later value replaces an earlier one. -/
def insertSorted (key : String) (value : Json) : List (String × Json) → List (String × Json)
  | [] => [(key, value)]
  | (name, held) :: others =>
    if key = name then (key, value) :: others
    else if key < name then (key, value) :: (name, held) :: others
    else (name, held) :: insertSorted key value others

/-- The value reached by keys through objects only. -/
def descend? : List String → Json → Option Json
  | [], value => some value
  | key :: keys, .object members => (member? key members).bind (descend? keys)
  | _ :: _, _ => none

end Json

end Placard
