import Placard.Toml.Value

/-! Tables in the making: which of them a line may still extend, and which are closed. -/

namespace Placard.Toml

/-- How a table came to be. -/
inductive Making
  /-- By a header of its own, or by braces. -/
  | stated
  /-- As a step on the way to the table of a longer header. -/
  | passed
  /-- As a step of a dotted key. -/
  | dotted
deriving DecidableEq, Repr, Inhabited

/-- What stands under a key while a document is read. -/
inductive Draft
  | value (value : Toml)
  | table (making : Making) (items : List (String × Draft))
  /-- The tables of a list, each begun by a header in doubled brackets. -/
  | list (tables : List (List (String × Draft)))
deriving Repr, Inhabited

/-- The items of a table. -/
abbrev Items := List (String × Draft)

/-- The items with the draft of a key exchanged, or put at the end. -/
def Items.put (items : Items) (key : String) (draft : Draft) : Items :=
  if items.any (·.1 == key) then
    items.map fun item => if item.1 == key then (key, draft) else item
  else items ++ [(key, draft)]

mutual

/-- The value that a draft has become. -/
def Draft.toToml : Draft → Toml
  | .value value => value
  | .table _ items => .table (itemsToToml items)
  | .list tables => .array (tablesToToml tables)

/-- The items of a table as values. -/
def itemsToToml : List (String × Draft) → List (String × Toml)
  | [] => []
  | (key, draft) :: others => (key, draft.toToml) :: itemsToToml others

/-- The tables of a list as values. -/
def tablesToToml : List (List (String × Draft)) → List Toml
  | [] => []
  | items :: others => .table (itemsToToml items) :: tablesToToml others

end

/-- A change of a table, which may not be allowed. -/
abbrev Change := Making → Items → Option (Making × Items)

/-- Changes the table at the end of a path; missing tables on the way are made.

The last table of a list stands for the list. A dotted key may enter only tables that were not
stated, and nothing can be entered where a value stands. -/
def within (dotted : Bool) : List String → Change → Change
  | [], change => change
  | key :: keys, change => fun making items =>
    match items.lookup key with
    | none => do
      let (inner, held) ← within dotted keys change (if dotted then .dotted else .passed) []
      return (making, items.put key (.table inner held))
    | some (.value _) => none
    | some (.list tables) => do
      let (_, held) ← within dotted keys change .stated (tables.getLast?.getD [])
      return (making, items.put key (.list (tables.dropLast ++ [held])))
    | some (.table inner held) =>
      if dotted && inner == .stated then none
      else do
        let (inner', held') ← within dotted keys change inner held
        return (making, items.put key (.table inner' held'))

/-- Puts a value under a dotted key; no key is given twice, and the two forms of a table do not mix. -/
def putValue (path : List String) (value : Toml) : Change :=
  match path.reverse with
  | [] => fun _ _ => none
  | key :: above => within true above.reverse fun making items =>
    if (making == .dotted) == above.isEmpty || items.any (·.1 == key) then none
    else some (making, items.put key (.value value))

/-- A document while it is read: the tables so far, the one that lines belong to, and its header. -/
structure Document where
  root : Items
  current : Items
  header : List String
  inList : Bool
deriving Repr, Inhabited

namespace Document

/-- A document before its first line. -/
def empty : Document := ⟨[], [], [], false⟩

/-- Puts the table that lines belong to in its place. -/
def settle (document : Document) : Option Items :=
  match document.header.reverse with
  | [] => some document.current
  | key :: above => do
    let place : Change := fun making items =>
      if document.inList then
        match items.lookup key with
        | none => some (making, items.put key (.list [document.current]))
        | some (.list tables) => some (making, items.put key (.list (tables ++ [document.current])))
        | some _ => none
      else
        match items.lookup key with
        | none => some (making, items.put key (.table .stated document.current))
        | some (.table .stated _) => none
        | some (.table _ _) => some (making, items.put key (.table .stated document.current))
        | some _ => none
    return (← within false above.reverse place .stated document.root).2

/-- Begins the table of a header; a table is stated only once, and may have been passed before. -/
def beginTable (document : Document) (path : List String) : Option Document := do
  let root ← document.settle
  match path.reverse with
  | [] => none
  | key :: above =>
    -- What was passed on the way to longer headers becomes a part of the table.
    let above := above.reverse
    let find : Change := fun making items =>
      match items.lookup key with
      | none => some (making, items)
      | some (.table .passed _) => some (making, items)
      | some _ => none
    let (_, checked) ← within false above find .stated root
    let held := match reach above checked with
      | some items =>
        match items.lookup key with
        | some (.table _ held) => held
        | _ => []
      | none => []
    return ⟨checked, held, path, false⟩
where
  /-- The items of the table at the end of a path. -/
  reach : List String → Items → Option Items
    | [], items => some items
    | key :: keys, items =>
      match items.lookup key with
      | some (.table _ held) => reach keys held
      | some (.list tables) => reach keys (tables.getLast?.getD [])
      | _ => none

/-- Begins the next table of a list. -/
def beginListTable (document : Document) (path : List String) : Option Document := do
  let root ← document.settle
  match path.reverse with
  | [] => none
  | key :: above =>
    let find : Change := fun making items =>
      match items.lookup key with
      | none => some (making, items.put key (.list []))
      | some (.list _) => some (making, items)
      | some _ => none
    let (_, checked) ← within false above.reverse find .stated root
    return ⟨checked, [], path, true⟩

/-- Adds a line with a key and a value. -/
def addLine (document : Document) (path : List String) (value : Toml) : Option Document := do
  let (_, current) ← putValue path value .stated document.current
  return { document with current }

/-- The value of a whole document. -/
def finish (document : Document) : Option Toml :=
  document.settle.map fun items => .table (itemsToToml items)

end Document

end Placard.Toml
