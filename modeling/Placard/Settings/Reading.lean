import Placard.Settings
import Placard.Settings.Given

/-! Settings read from given values, and what may be wrong with a value. -/

namespace Placard

/-- What is wrong with a given value. -/
inductive GivenFault
  | mismatch (found wanted : String)
  | outOfRange (found wanted : String)
  | notText
  | wrongLength (length : Nat) (wanted : String)
  | missing (key : String)
deriving DecidableEq, Repr, Inhabited

/-- The wording of what is wrong with a value. -/
def GivenFault.message : GivenFault → String
  | mismatch found wanted => "invalid type: found " ++ found ++ ", expected " ++ wanted
  | outOfRange found wanted => "invalid value " ++ found ++ ", expected " ++ wanted
  | notText => "expected text, found a table or array"
  | wrongLength length wanted => "invalid length " ++ toString length ++ ", expected " ++ wanted
  | missing key => "missing field `" ++ key ++ "`"

/-- A fault of a value, with the keys that lead to it and the layer that gave it. -/
structure GivenProblem where
  fault : GivenFault
  path : List String
  layer : Layer
deriving DecidableEq, Repr, Inhabited

namespace GivenProblem

/-- The key of the value: variables have it in capital letters. -/
def key (problem : GivenProblem) : String :=
  match problem.layer with
  | .environment =>
    Text.joinWith "." (problem.path.map fun step => .ofList (step.toList.map Char.toUpper))
  | _ => Text.joinWith "." ("default" :: problem.path)

/-- The wording of a problem. -/
def message (problem : GivenProblem) : String :=
  let key := if problem.path.isEmpty then "" else " for key \"" ++ problem.key ++ "\""
  let place := match problem.layer with
    | .usual => ""
    | .file name => " in " ++ name ++ " TOML file"
    | .environment => " in `WALLINFO_` environment variable(s)"
  problem.fault.message ++ key ++ place

end GivenProblem

namespace Given

/-- A complaint about a value itself. -/
def refuse {α : Type} (given : Given) (fault : GivenFault) : Except GivenProblem α :=
  .error ⟨fault, [], given.layer⟩

/-- A complaint that something else is wanted. -/
def mismatch {α : Type} (given : Given) (wanted : String) : Except GivenProblem α :=
  given.refuse (.mismatch given.describe wanted)

/-- A problem further inside, seen from outside a key. -/
def under {α : Type} (key : String) (reading : Except GivenProblem α) : Except GivenProblem α :=
  reading.mapError fun problem => { problem with path := key :: problem.path }

/-- A whole number from zero up to a bound. -/
def toWord (bound : Nat) (wanted : String) (given : Given) : Except GivenProblem Nat :=
  match given with
  | .scalar _ (.unsigned value) =>
    if value ≤ bound then .ok value else given.refuse (.outOfRange given.describe wanted)
  | .scalar _ (.signed value) =>
    if 0 ≤ value ∧ value ≤ bound then .ok value.toNat
    else given.refuse (.outOfRange given.describe wanted)
  | _ => given.mismatch wanted

/-- A length in the range of 32 bits. -/
def toLength (given : Given) : Except GivenProblem UInt32 :=
  (given.toWord 0xFFFF_FFFF "u32").map Nat.toUInt32

/-- A count in the range of 64 bits. -/
def toCount (given : Given) : Except GivenProblem UInt64 :=
  (given.toWord largestWord "u64").map Nat.toUInt64

/-- The floating-point number nearest to a whole one. -/
def nearestTo (value : Int) : Float :=
  let size := Decimal.nearest value.natAbs 0
  if value < 0 then -size else size

/-- A floating-point number, which may be given as a whole one. -/
def toFloat (given : Given) : Except GivenProblem Float :=
  match given with
  | .scalar _ (.float value) => .ok value
  | .scalar _ (.unsigned value) => .ok (nearestTo value)
  | .scalar _ (.signed value) => .ok (nearestTo value)
  | _ => given.mismatch "f64"

/-- A choice between yes and no. -/
def toBool (given : Given) : Except GivenProblem Bool :=
  match given with
  | .scalar _ (.bool value) => .ok value
  | _ => given.mismatch "a boolean"

/-- A path. -/
def toPath (given : Given) : Except GivenProblem String :=
  match given with
  | .scalar _ (.text value) => .ok value
  | .scalar _ (.letter value) => .ok (.singleton value)
  | _ => given.mismatch "path string"

/-- A text; numbers and choices are taken as they are written. -/
def toText (given : Given) : Except GivenProblem String :=
  match given with
  | .scalar _ (.text value) => .ok value
  | .scalar _ (.unsigned value) => .ok (toString value)
  | .scalar _ (.signed value) => .ok (toString value)
  | .scalar _ (.float value) => .ok (Decimal.plain.write value)
  | .scalar _ (.bool value) => .ok (toString value)
  | _ => given.refuse .notText

/-- The seconds that a source may take; what is no positive whole number stands for the usual ones. -/
def toTimeout (given : Given) : UInt64 :=
  match given with
  | .scalar _ (.unsigned value) => (if value == 0 then usualTimeout else value).toUInt64
  | .scalar _ (.signed value) => (if value ≤ 0 then usualTimeout else value.toNat).toUInt64
  | .scalar _ (.text value) => (readTimeout value).toUInt64
  | _ => usualTimeout.toUInt64

/-- A value that may be absent. -/
def optional {α : Type} (read : Given → Except GivenProblem α) (given : Given) :
    Except GivenProblem (Option α) :=
  match given with
  | .scalar _ .nothing => .ok none
  | _ => (read given).map some

/-! ### Records -/

/-- The fields of a record, by key or in order. -/
inductive Fields
  | keyed (items : List (String × Given))
  | ordered (items : List Given)

/-- The fields of a record; anything but a table or a list is refused. -/
def fields (wanted : String) (given : Given) : Except GivenProblem Fields :=
  match given with
  | .table _ items => .ok (.keyed items)
  | .list _ items => .ok (.ordered items)
  | _ => given.mismatch wanted

namespace Fields

/-- The field of a key, which is also the field at a place. -/
def get? {α : Type} (fields : Fields) (place : Nat) (key : String)
    (read : Given → Except GivenProblem α) : Except GivenProblem (Option α) :=
  match fields with
  | keyed items =>
    match items.lookup key with
    | some given => under key ((read given).map some)
    | none => .ok none
  | ordered items =>
    match items[place]? with
    | some given => under (toString place) ((read given).map some)
    | none => .ok none

/-- Reports the first problem: keys are looked at in their order, fields without keys in theirs. -/
def check (fields : Fields) (byKey byPlace : List (Except GivenProblem Unit)) :
    Except GivenProblem Unit :=
  match fields with
  | keyed _ => byKey.forM id
  | ordered _ => byPlace.forM id

end Fields

/-- A block; none of its lengths may be missing. -/
def toBlock (given : Given) : Except GivenProblem Block := do
  let fields ← given.fields "struct PlacementRect"
  let left := fields.get? 0 "left" toLength
  let top := fields.get? 1 "top" toLength
  let width := fields.get? 2 "width" toLength
  let height := fields.get? 3 "height" toLength
  fields.check [discard height, discard left, discard top, discard width]
    [discard left, discard top, discard width, discard height]
  let need (place : Nat) (key : String) (field : Except GivenProblem (Option UInt32)) :
      Except GivenProblem UInt32 := do
    match ← field, fields with
    | some value, _ => return value
    | none, .keyed _ => given.refuse (.missing key)
    | none, .ordered _ => given.refuse (.wrongLength place "struct PlacementRect with 4 elements")
  return ⟨← need 0 "left" left, ← need 1 "top" top, ← need 2 "width" width, ← need 3 "height" height⟩

/-- The settings of the target surface. -/
def toTarget (given : Given) : Except GivenProblem TargetSettings := do
  let fields ← given.fields "struct TargetConfig"
  let width := fields.get? 0 "width" toLength
  let height := fields.get? 1 "height" toLength
  let scale := fields.get? 2 "preview_scale" toFloat
  fields.check [discard height, discard scale, discard width]
    [discard width, discard height, discard scale]
  let usual : TargetSettings := {}
  return ⟨(← width).getD usual.width, (← height).getD usual.height, (← scale).getD usual.previewScale⟩

/-- The settings of web requests; without keys, the authority has to be there. -/
def toWeb (given : Given) : Except GivenProblem WebSettings := do
  let fields ← given.fields "struct HttpConfig"
  let insecure := fields.get? 0 "insecure" toBool
  let authority := fields.get? 1 "ca_cert" (optional toPath)
  let userAgent := fields.get? 2 "user_agent" (optional toText)
  fields.check [discard authority, discard insecure, discard userAgent]
    [discard insecure, discard authority, discard userAgent]
  match ← authority, fields with
  | none, .ordered _ => given.refuse (.wrongLength 1 "struct HttpConfig with 3 elements")
  | found, _ => return ⟨(← insecure).getD false, found.join, (← userAgent).join⟩

/-- The settings that a table of given values makes. -/
def toSettings (given : Given) : Except GivenProblem Settings := do
  let fields ← given.fields "struct Config"
  let usual := Settings.usual
  -- Problems are reported in the order of the keys.
  let connectionsFile ← fields.get? 4 "connections_file" (optional toPath)
  let web ← fields.get? 7 "http" toWeb
  let note ← fields.get? 3 "note" (optional toText)
  let placement ← fields.get? 5 "placement" toBlock
  let refreshMinutes ← fields.get? 1 "refresh_interval_minutes" toCount
  let target ← fields.get? 6 "target" toTarget
  let template ← fields.get? 2 "template" toText
  let timeoutSeconds ← fields.get? 0 "timeout_secs" fun given => .ok given.toTimeout
  return {
    timeoutSeconds := timeoutSeconds.getD usual.timeoutSeconds
    refreshMinutes := refreshMinutes.getD usual.refreshMinutes
    template := template.getD usual.template
    note := note.join
    connectionsFile := connectionsFile.join
    placement := placement.getD usual.placement
    target := target.getD usual.target
    web := web.getD usual.web }

end Given

namespace Settings

/-- A text that may be absent, as a given value. -/
def givenText? (text : Option String) : Given :=
  .scalar .usual (match text with | some value => .text value | none => .nothing)

/-- Settings as the lowest layer of given values. -/
def toGiven (settings : Settings) : Given :=
  let word (value : Nat) : Given := .scalar .usual (.unsigned value)
  let table (items : List (String × Given)) : Given := .table .usual items
  table [
    ("timeout_secs", word settings.timeoutSeconds.toNat),
    ("refresh_interval_minutes", word settings.refreshMinutes.toNat),
    ("template", .scalar .usual (.text settings.template)),
    ("note", givenText? settings.note),
    ("connections_file", givenText? settings.connectionsFile),
    ("placement", table [
      ("left", word settings.placement.left.toNat), ("top", word settings.placement.top.toNat),
      ("width", word settings.placement.width.toNat), ("height", word settings.placement.height.toNat)]),
    ("target", table [
      ("width", word settings.target.width.toNat), ("height", word settings.target.height.toNat),
      ("preview_scale", .scalar .usual (.float settings.target.previewScale))]),
    ("http", table [
      ("insecure", .scalar .usual (.bool settings.web.insecure)),
      ("ca_cert", givenText? settings.web.authority),
      ("user_agent", givenText? settings.web.userAgent)])]

end Settings

end Placard
