/-! TOML values: what a settings file holds once it is read. -/

namespace Placard

/-- A TOML value; the items of a table stand in the order in which they first appear. -/
inductive Toml
  | integer (value : Int)
  | float (value : Float)
  | bool (value : Bool)
  | text (value : String)
  /-- A date, a time of day, or both. -/
  | date (written : String)
  | array (items : List Toml)
  | table (items : List (String × Toml))
deriving Repr, Inhabited

end Placard
