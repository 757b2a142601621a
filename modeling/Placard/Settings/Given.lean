import Placard.Decimal.Layout
import Placard.Text.Quoted
import Placard.Toml.Value

/-! Values given for settings, each with the layer that gave it, and layers put over one another. -/

namespace Placard

/-- A layer of settings. -/
inductive Layer
  | usual
  | file (name : String)
  | environment
deriving DecidableEq, Repr, Inhabited

/-- A single value. -/
inductive Scalar
  | nothing
  | bool (value : Bool)
  | unsigned (value : Nat)
  | signed (value : Int)
  | float (value : Float)
  | letter (value : Char)
  | text (value : String)
deriving Repr, Inhabited

/-- A value given for settings, with the layer that gave it. -/
inductive Given
  | scalar (layer : Layer) (value : Scalar)
  | list (layer : Layer) (items : List Given)
  | table (layer : Layer) (items : List (String × Given))
deriving Repr, Inhabited

namespace Given

/-- The layer that gave a value. -/
def layer : Given → Layer
  | scalar layer _ => layer
  | list layer _ => layer
  | table layer _ => layer

/-- What a value is, in the words of a complaint about it. -/
def describe : Given → String
  | scalar _ .nothing => "Option"
  | scalar _ (.bool value) => "bool " ++ toString value
  | scalar _ (.unsigned value) => "unsigned int `" ++ toString value ++ "`"
  | scalar _ (.signed value) => "signed int `" ++ toString value ++ "`"
  | scalar _ (.float value) => "float `" ++ Decimal.plain.write value ++ "`"
  | scalar _ (.letter value) => "string " ++ Text.quoted (.singleton value)
  | scalar _ (.text value) => "string " ++ Text.quoted value
  | list .. => "sequence"
  | table .. => "map"

/-- Items with the value of a key exchanged, or put at the end. -/
def put (items : List (String × Given)) (key : String) (value : Given) : List (String × Given) :=
  match items with
  | [] => [(key, value)]
  | (name, held) :: others =>
    if name = key then (name, value) :: others else (name, held) :: put others key value

mutual

/-- A value with another one put over it: tables are joined, and all else is replaced. -/
def overlaid (lower : Given) : Given → Given
  | .table layer upper =>
    match lower with
    | .table _ items => .table layer (overlaidItems items upper)
    | _ => .table layer upper
  | upper => upper

/-- Items with others put over them. -/
def overlaidItems (lower : List (String × Given)) : List (String × Given) → List (String × Given)
  | [] => lower
  | (key, upper) :: others =>
    let value := match lower.lookup key with
      | some held => overlaid held upper
      | none => upper
    overlaidItems (put lower key value) others

end

mutual

/-- A value of a settings file. -/
def ofToml (layer : Layer) : Toml → Given
  | .integer value => .scalar layer (.signed value)
  | .float value => .scalar layer (.float value)
  | .bool value => .scalar layer (.bool value)
  | .text value => .scalar layer (.text value)
  -- A date is a table of its own, whose only key belongs to no setting.
  | .date written => .table layer [("$date", .scalar layer (.text written))]
  | .array items => .list layer (ofTomlList layer items)
  | .table items => .table layer (ofTomlItems layer items)

/-- The items of a list in a settings file. -/
def ofTomlList (layer : Layer) : List Toml → List Given
  | [] => []
  | item :: others => ofToml layer item :: ofTomlList layer others

/-- The items of a table in a settings file. -/
def ofTomlItems (layer : Layer) : List (String × Toml) → List (String × Given)
  | [] => []
  | (key, value) :: others => (key, ofToml layer value) :: ofTomlItems layer others

end

end Given

end Placard
