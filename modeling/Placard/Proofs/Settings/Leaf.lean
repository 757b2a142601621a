import Placard.Proofs.Except
import Placard.Proofs.Settings.Overlay
import Placard.Settings.Reading

/-! The leaves of the settings: the keys that lead to each one, and how a single value is read for it. -/

namespace Placard.Settings

/-- The kinds of leaves. -/
inductive Kind
  | seconds
  | count
  | text
  | maybeText
  | maybePath
  | length
  | factor
  | choice
deriving DecidableEq, Repr

/-- What a leaf of a kind holds. -/
abbrev Kind.Value : Kind → Type
  | seconds => UInt64
  | count => UInt64
  | text => String
  | maybeText => Option String
  | maybePath => Option String
  | length => UInt32
  | factor => Float
  | choice => Bool

/-- The leaves of the settings. -/
inductive Leaf
  | timeoutSeconds
  | refreshMinutes
  | template
  | note
  | connectionsFile
  | left
  | top
  | width
  | height
  | targetWidth
  | targetHeight
  | previewScale
  | insecure
  | authority
  | userAgent
deriving DecidableEq, Repr

namespace Leaf

/-- The kind of a leaf. -/
abbrev kind : Leaf → Kind
  | timeoutSeconds => .seconds
  | refreshMinutes => .count
  | template => .text
  | note => .maybeText
  | connectionsFile => .maybePath
  | left => .length
  | top => .length
  | width => .length
  | height => .length
  | targetWidth => .length
  | targetHeight => .length
  | previewScale => .factor
  | insecure => .choice
  | authority => .maybePath
  | userAgent => .maybeText

/-- The keys that lead to a leaf. -/
def path : Leaf → List String
  | timeoutSeconds => ["timeout_secs"]
  | refreshMinutes => ["refresh_interval_minutes"]
  | template => ["template"]
  | note => ["note"]
  | connectionsFile => ["connections_file"]
  | left => ["placement", "left"]
  | top => ["placement", "top"]
  | width => ["placement", "width"]
  | height => ["placement", "height"]
  | targetWidth => ["target", "width"]
  | targetHeight => ["target", "height"]
  | previewScale => ["target", "preview_scale"]
  | insecure => ["http", "insecure"]
  | authority => ["http", "ca_cert"]
  | userAgent => ["http", "user_agent"]

/-- All leaves. -/
def all : List Leaf := [timeoutSeconds, refreshMinutes, template, note, connectionsFile, left, top,
  width, height, targetWidth, targetHeight, previewScale, insecure, authority, userAgent]

/-- Every leaf is listed. -/
theorem mem_all (leaf : Leaf) : leaf ∈ all := by
  cases leaf <;> decide

/-- What settings hold at a leaf. -/
def get (settings : Settings) : (leaf : Leaf) → leaf.kind.Value
  | timeoutSeconds => settings.timeoutSeconds
  | refreshMinutes => settings.refreshMinutes
  | template => settings.template
  | note => settings.note
  | connectionsFile => settings.connectionsFile
  | left => settings.placement.left
  | top => settings.placement.top
  | width => settings.placement.width
  | height => settings.placement.height
  | targetWidth => settings.target.width
  | targetHeight => settings.target.height
  | previewScale => settings.target.previewScale
  | insecure => settings.web.insecure
  | authority => settings.web.authority
  | userAgent => settings.web.userAgent

end Leaf

/-- The settings with given leaves. -/
def ofLeaves (values : (leaf : Leaf) → leaf.kind.Value) : Settings where
  timeoutSeconds := values .timeoutSeconds
  refreshMinutes := values .refreshMinutes
  template := values .template
  note := values .note
  connectionsFile := values .connectionsFile
  placement := ⟨values .left, values .top, values .width, values .height⟩
  target := ⟨values .targetWidth, values .targetHeight, values .previewScale⟩
  web := ⟨values .insecure, values .authority, values .userAgent⟩

/-- Settings made of leaves hold them. -/
@[simp] theorem get_ofLeaves (values : (leaf : Leaf) → leaf.kind.Value) (leaf : Leaf) :
    leaf.get (ofLeaves values) = values leaf := by
  cases leaf <;> rfl

/-- Settings are made of their leaves. -/
@[simp] theorem ofLeaves_get (settings : Settings) : ofLeaves (fun leaf => leaf.get settings) = settings := rfl

/-- Settings with the same leaves are the same. -/
theorem ext_leaves {first second : Settings} (same : ∀ leaf : Leaf, leaf.get first = leaf.get second) :
    first = second := by
  rw [← ofLeaves_get first, ← ofLeaves_get second]
  exact congrArg ofLeaves (funext same)

/-! ### Reading single values -/

/-- The text of a single value; numbers and choices are taken as they are written. -/
def lenientText? : Scalar → Option String
  | .text value => some value
  | .unsigned value => some (toString value)
  | .signed value => some (toString value)
  | .float value => some (Decimal.plain.write value)
  | .bool value => some (toString value)
  | .letter _ => none
  | .nothing => none

/-- The seconds that a single value gives: a positive whole number, or a text with one, or the usual ones. -/
def lenientSeconds : Scalar → Nat
  | .unsigned value => if 0 < value then value else usualTimeout
  | .signed value => if 0 < value then value.toNat else usualTimeout
  | .text value => readTimeout value
  | _ => usualTimeout

/-- A whole number from zero up to a bound. -/
def wholeUpTo? (bound : Nat) : Scalar → Option Nat
  | .unsigned value => if value ≤ bound then some value else none
  | .signed value => if 0 ≤ value ∧ value ≤ bound then some value.toNat else none
  | _ => none

/-- The path that a single value gives. -/
def path? : Scalar → Option String
  | .text value => some value
  | .letter value => some (.singleton value)
  | _ => none

/-- A value that may be absent. -/
def whenThere? {α : Type} (read? : Scalar → Option α) : Scalar → Option (Option α)
  | .nothing => some none
  | value => (read? value).map some

/-- The reading of a single value of the right type and within range, for a leaf of a kind. -/
def Kind.read? : (kind : Kind) → Scalar → Option kind.Value
  | seconds, value => some (lenientSeconds value).toUInt64
  | count, value => (wholeUpTo? largestWord value).map Nat.toUInt64
  | text, value => lenientText? value
  | maybeText, value => whenThere? lenientText? value
  | maybePath, value => whenThere? path? value
  | length, value => (wholeUpTo? 0xFFFF_FFFF value).map Nat.toUInt32
  | factor, .float value => some value
  | factor, .unsigned value => some (Given.nearestTo value)
  | factor, .signed value => some (Given.nearestTo value)
  | factor, _ => none
  | choice, .bool value => some value
  | choice, _ => none

/-- How the program reads a given value for a leaf of a kind. -/
def Kind.reader : (kind : Kind) → Given → Except GivenProblem kind.Value
  | seconds => fun given => .ok given.toTimeout
  | count => Given.toCount
  | text => Given.toText
  | maybeText => Given.optional Given.toText
  | maybePath => Given.optional Given.toPath
  | length => Given.toLength
  | factor => Given.toFloat
  | choice => Given.toBool

/-- A whole number is read within its bound. -/
theorem toWord_eq {bound : Nat} {wanted : String} {scalar : Scalar} {value : Nat}
    (typed : wholeUpTo? bound scalar = some value) (layer : Layer) :
    Given.toWord bound wanted (.scalar layer scalar) = .ok value := by
  -- Both kinds of whole numbers are compared with the same bound.
  cases scalar with
  | unsigned number =>
    simp only [wholeUpTo?, Option.ite_none_right_eq_some] at typed
    obtain ⟨within, ⟨⟩⟩ := typed
    rw [Given.toWord, if_pos within]
  | signed number =>
    simp only [wholeUpTo?, Option.ite_none_right_eq_some] at typed
    obtain ⟨within, ⟨⟩⟩ := typed
    rw [Given.toWord, if_pos within]
  | _ => cases typed

/-- A text is read from what writes one. -/
theorem toText_eq {scalar : Scalar} {value : String} (typed : lenientText? scalar = some value)
    (layer : Layer) : Given.toText (.scalar layer scalar) = .ok value := by
  cases scalar <;> cases typed <;> rfl

/-- A path is read from what gives one. -/
theorem toPath_eq {scalar : Scalar} {value : String} (typed : path? scalar = some value)
    (layer : Layer) : Given.toPath (.scalar layer scalar) = .ok value := by
  cases scalar <;> cases typed <;> rfl

/-- The seconds of a source are read from any single value. -/
theorem toTimeout_eq (layer : Layer) (scalar : Scalar) :
    Given.toTimeout (.scalar layer scalar) = (lenientSeconds scalar).toUInt64 := by
  -- Zero and negative numbers stand for the usual time, in the program as in what is meant.
  cases scalar with
  | unsigned value =>
    rw [Given.toTimeout, lenientSeconds]
    by_cases zero : value = 0
    · simp [zero]
    · rw [if_neg (by simpa using zero), if_pos (Nat.pos_of_ne_zero zero)]
  | signed value =>
    rw [Given.toTimeout, lenientSeconds]
    by_cases low : value ≤ 0
    · rw [if_pos low, if_neg (by omega)]
    · rw [if_neg low, if_pos (by omega)]
  | _ => rfl

/-- What is read when it is there is read from every value but the absent one. -/
theorem optional_eq {α : Type} {read? : Scalar → Option α} {read : Given → Except GivenProblem α}
    {layer : Layer} {scalar : Scalar}
    (there : ∀ value, read? scalar = some value → read (.scalar layer scalar) = .ok value)
    {value : Option α} (typed : whenThere? read? scalar = some value) :
    Given.optional read (.scalar layer scalar) = .ok value := by
  -- The absent value is read as nothing; every other one is read as the value inside.
  by_cases absent : scalar = .nothing
  · subst absent
    cases typed
    rfl
  · have given : (read? scalar).map some = some value := by
      rw [← typed, whenThere?]
      exact absent
    obtain ⟨held, found, rfl⟩ := Option.map_eq_some_iff.mp given
    rw [Given.optional, there held found]
    · rfl
    · rintro _ ⟨⟩
      exact absent rfl

/-- The program reads a value of the right type as it is meant. -/
theorem Kind.reader_eq {kind : Kind} {scalar : Scalar} {value : kind.Value}
    (typed : kind.read? scalar = some value) (layer : Layer) :
    kind.reader (.scalar layer scalar) = .ok value := by
  -- Each kind has its own reader, and its own lemma where the reader looks at more than the shape.
  cases kind with
  | seconds =>
    cases typed
    exact congrArg Except.ok (toTimeout_eq layer scalar)
  | count =>
    obtain ⟨number, within, rfl⟩ := Option.map_eq_some_iff.mp typed
    show (Given.toWord largestWord "u64" _).map Nat.toUInt64 = _
    rw [toWord_eq within]
    rfl
  | text => exact toText_eq typed layer
  | maybeText => exact optional_eq (fun _ found => toText_eq found layer) typed
  | maybePath => exact optional_eq (fun _ found => toPath_eq found layer) typed
  | length =>
    obtain ⟨number, within, rfl⟩ := Option.map_eq_some_iff.mp typed
    show (Given.toWord 0xFFFF_FFFF "u32" _).map Nat.toUInt32 = _
    rw [toWord_eq within]
    rfl
  | factor => cases scalar <;> cases typed <;> rfl
  | choice => cases scalar <;> first | (cases typed; rfl) | cases typed

/-! ### Reading all leaves -/

/-- A given value has a single value of the right type at every leaf. -/
def Typed (given : Given) (values : (leaf : Leaf) → leaf.kind.Value) : Prop :=
  ∀ leaf : Leaf, ∃ layer scalar, given.at? leaf.path = some (.scalar layer scalar) ∧
    leaf.kind.read? scalar = some (values leaf)

/-- A key that leads to a single value of the right type is read. -/
theorem get?_leaf {items : List (String × Given)} {key : String} {kind : Kind} {value : kind.Value}
    (place : Nat) {layer : Layer} {scalar : Scalar}
    (found : items.lookup key = some (.scalar layer scalar)) (typed : kind.read? scalar = some value) :
    (Given.Fields.keyed items).get? place key kind.reader = .ok (some value) := by
  rw [Given.Fields.get?]
  simp only [found, Kind.reader_eq typed]
  rfl

/-- A path of one key leads to what stands under the key. -/
theorem lookup_of_at? {layer : Layer} {items : List (String × Given)} {key : String} {value : Given}
    (reached : (Given.table layer items).at? [key] = some value) : items.lookup key = some value := by
  obtain ⟨found, here, same⟩ := Option.bind_eq_some_iff.mp reached
  rw [here]
  exact same

/-- A path of two keys leads through a table. -/
theorem table_of_at? {layer : Layer} {items : List (String × Given)} {outer key : String} {value : Given}
    (reached : (Given.table layer items).at? [outer, key] = some value) :
    ∃ layer' inner, items.lookup outer = some (.table layer' inner) := by
  obtain ⟨found, here, inside⟩ := Option.bind_eq_some_iff.mp reached
  cases found with
  | scalar => cases inside
  | list => cases inside
  | table layer' inner => exact ⟨layer', inner, here⟩

/-- A path of two keys goes on inside the table that the first one leads to. -/
theorem at?_inside {layer layer' : Layer} {items inner : List (String × Given)} {outer : String}
    (here : items.lookup outer = some (.table layer' inner)) (key : String) :
    (Given.table layer items).at? [outer, key] = (Given.table layer' inner).at? [key] := by
  simp [Given.at?, here]

/-- A table with a single value of the right type at every leaf is read as the settings with these leaves. -/
theorem toSettings_eq {layer : Layer} {items : List (String × Given)}
    {values : (leaf : Leaf) → leaf.kind.Value} (typed : Typed (.table layer items) values) :
    (Given.table layer items).toSettings = .ok (ofLeaves values) := by
  -- A leaf of the whole, or of the table that a key leads to, is read from its own key.
  have own (leaf : Leaf) {key : String} (one : leaf.path = [key]) (place : Nat) :
      (Given.Fields.keyed items).get? place key leaf.kind.reader = .ok (some (values leaf)) := by
    obtain ⟨_, _, reached, read⟩ := typed leaf
    rw [one] at reached
    exact get?_leaf place (lookup_of_at? reached) read
  have inside (leaf : Leaf) {outer key : String} (two : leaf.path = [outer, key]) {layer' : Layer}
      {inner : List (String × Given)} (here : items.lookup outer = some (.table layer' inner))
      (place : Nat) :
      (Given.Fields.keyed inner).get? place key leaf.kind.reader = .ok (some (values leaf)) := by
    obtain ⟨_, _, reached, read⟩ := typed leaf
    rw [two, at?_inside here] at reached
    exact get?_leaf place (lookup_of_at? reached) read
  have table (leaf : Leaf) {outer key : String} (two : leaf.path = [outer, key]) :
      ∃ layer' inner, items.lookup outer = some (.table layer' inner) := by
    obtain ⟨_, _, reached, -⟩ := typed leaf
    rw [two] at reached
    exact table_of_at? reached
  obtain ⟨blockLayer, blockItems, block⟩ := table .left rfl
  obtain ⟨targetLayer, targetItems, target⟩ := table .targetWidth rfl
  obtain ⟨webLayer, webItems, web⟩ := table .insecure rfl
  have placed : (Given.table blockLayer blockItems).toBlock =
      .ok ⟨values .left, values .top, values .width, values .height⟩ := by
    have left := inside .left rfl block 0
    have top := inside .top rfl block 1
    have width := inside .width rfl block 2
    have height := inside .height rfl block 3
    simp only [Kind.reader] at left top width height
    simp only [Given.toBlock, Given.fields, ok_bind, left, top, width, height]
    rfl
  have aimed : (Given.table targetLayer targetItems).toTarget =
      .ok ⟨values .targetWidth, values .targetHeight, values .previewScale⟩ := by
    have width := inside .targetWidth rfl target 0
    have height := inside .targetHeight rfl target 1
    have scale := inside .previewScale rfl target 2
    simp only [Kind.reader] at width height scale
    simp only [Given.toTarget, Given.fields, ok_bind, width, height, scale]
    rfl
  have sent : (Given.table webLayer webItems).toWeb =
      .ok ⟨values .insecure, values .authority, values .userAgent⟩ := by
    have insecure := inside .insecure rfl web 0
    have authority := inside .authority rfl web 1
    have userAgent := inside .userAgent rfl web 2
    simp only [Kind.reader] at insecure authority userAgent
    simp only [Given.toWeb, Given.fields, ok_bind, insecure, authority, userAgent]
    rfl
  have part {α : Type} {read : Given → Except GivenProblem α} {key : String} {given : Given} {value : α}
      (here : items.lookup key = some given) (done : read given = .ok value) (place : Nat) :
      (Given.Fields.keyed items).get? place key read = .ok (some value) := by
    rw [Given.Fields.get?]
    simp only [here, done]
    rfl
  have connectionsFile := own .connectionsFile rfl 4
  have note := own .note rfl 3
  have refresh := own .refreshMinutes rfl 1
  have template := own .template rfl 2
  have timeout := own .timeoutSeconds rfl 0
  simp only [Kind.reader] at connectionsFile note refresh template timeout
  simp only [Given.toSettings, Given.fields, ok_bind, connectionsFile, note, refresh, template, timeout,
    part web sent, part block placed, part target aimed]
  rfl

end Placard.Settings
