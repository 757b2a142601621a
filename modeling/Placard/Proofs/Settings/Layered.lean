import Placard.Proofs.Settings.Leaf
import Placard.Proofs.Toml.Distinct
import Placard.Settings.Store

/-! Settings from layers: at each leaf, variables win over the file, and the file over the usual value. -/

namespace Placard

namespace Toml

/-- The value at the end of a path of keys. -/
def at? (whole : Toml) : List String → Option Toml
  | [] => some whole
  | key :: keys =>
    match whole with
    | .table items => (items.lookup key).bind (·.at? keys)
    | _ => none

/-- A path does not end early: as far as the value goes, there are tables on the way. -/
def Opens (whole : Toml) : List String → Prop
  | [] => True
  | key :: keys =>
    match whole with
    | .table items => ∀ inner, items.lookup key = some inner → inner.Opens keys
    | _ => False

/-- A single value, as settings take it. -/
def scalar? : Toml → Option Scalar
  | .integer value => some (.signed value)
  | .float value => some (.float value)
  | .bool value => some (.bool value)
  | .text value => some (.text value)
  | _ => none

end Toml

namespace Given

/-! ### The values of a file -/

/-- The items of a table keep their keys. -/
theorem ofTomlItems_eq (layer : Layer) (items : List (String × Toml)) :
    ofTomlItems layer items = items.map fun item => (item.1, ofToml layer item.2) := by
  induction items with
  | nil => rfl
  | cons item others ih =>
    rw [ofTomlItems, ih]
    rfl

/-- What a key leads to is what it led to in the file. -/
theorem lookup_ofTomlItems (layer : Layer) (items : List (String × Toml)) (key : String) :
    (ofTomlItems layer items).lookup key = (items.lookup key).map (ofToml layer) := by
  induction items with
  | nil => rfl
  | cons item others ih =>
    rw [ofTomlItems, List.lookup_cons, List.lookup_cons, ih]
    cases key == item.1 <;> rfl

/-- What a path leads to is what it led to in the file. -/
theorem at?_ofToml (layer : Layer) {whole : Toml} (distinct : whole.Distinct) {path : List String}
    (opens : whole.Opens path) :
    (ofToml layer whole).at? path = (whole.at? path).map (ofToml layer) ∧
      (ofToml layer whole).Opens path := by
  -- A table stays a table with the same keys, so the path goes on below as it did in the file.
  induction path generalizing whole with
  | nil => exact ⟨rfl, trivial⟩
  | cons key keys ih =>
    cases distinct with
    | @table items apart inside =>
      have names : ((ofTomlItems layer items).map (·.1)).Nodup := by
        simpa [ofTomlItems_eq, Function.comp_def] using apart
      rw [ofToml]
      simp only [at?, Opens, Toml.at?, lookup_ofTomlItems]
      cases found : items.lookup key with
      | none => simpa using names
      | some inner =>
        obtain ⟨reached, opened⟩ := ih (inside _ (Keyed.mem_of_lookup found)) (opens inner found)
        simp [reached, opened, names]
    | _ => exact absurd opens id

/-- A single value of a file is a single value. -/
theorem ofToml_scalar {value : Toml} {scalar : Scalar} (single : value.scalar? = some scalar)
    (layer : Layer) : ofToml layer value = .scalar layer scalar := by
  cases value <;> cases single <;> rw [ofToml]

/-! ### What a layer gives -/

/-- A layer gives these single values, and nothing else at or above a leaf. -/
structure Gives (given : Given) (values : Settings.Leaf → Option Scalar) : Prop where
  opens : ∀ leaf : Settings.Leaf, given.Opens leaf.path
  reached : ∀ leaf : Settings.Leaf, ∃ layer,
    given.at? leaf.path = (values leaf).map (Given.scalar layer)

/-- A layer gives single values only. -/
theorem Gives.single {given : Given} {values : Settings.Leaf → Option Scalar} (gives : given.Gives values)
    (leaf : Settings.Leaf) : ∀ value, given.at? leaf.path = some value → value.IsScalar := by
  intro value found
  obtain ⟨layer, reached⟩ := gives.reached leaf
  rw [reached] at found
  obtain ⟨scalar, -, rfl⟩ := Option.map_eq_some_iff.mp found
  exact ⟨layer, scalar, rfl⟩

/-- Of two layers, the upper one gives its values, and the lower one the others. -/
theorem Gives.overlaid {lower upper : Given} {lowerValues upperValues : Settings.Leaf → Option Scalar}
    (below : lower.Gives lowerValues) (above : upper.Gives upperValues) :
    (lower.overlaid upper).Gives fun leaf => (upperValues leaf).or (lowerValues leaf) := by
  have both (leaf : Settings.Leaf) :=
    at?_overlaid (below.opens leaf) (above.opens leaf) (above.single leaf)
  refine ⟨fun leaf => (both leaf).2, fun leaf => ?_⟩
  obtain ⟨lowerLayer, under⟩ := below.reached leaf
  obtain ⟨upperLayer, upon⟩ := above.reached leaf
  -- A value keeps the name of the layer that gave it, so the two cases differ in the layer.
  rw [(both leaf).1, under, upon]
  cases upperValues leaf with
  | some value => exact ⟨upperLayer, rfl⟩
  | none => exact ⟨lowerLayer, rfl⟩

/-- An empty layer gives nothing. -/
theorem gives_nothing (layer : Layer) : (Given.table layer []).Gives fun _ => none := by
  refine ⟨fun leaf => ?_, fun leaf => ⟨layer, ?_⟩⟩
  · cases leaf <;> exact ⟨List.nodup_nil, by rintro _ ⟨⟩⟩
  · cases leaf <;> rfl

/-- A file without repeated keys gives the single values at its leaves, if nothing else stands there. -/
theorem gives_ofToml {whole : Toml} (distinct : whole.Distinct)
    (opens : ∀ leaf : Settings.Leaf, whole.Opens leaf.path)
    (single : ∀ (leaf : Settings.Leaf) value, whole.at? leaf.path = some value →
      ∃ scalar, value.scalar? = some scalar) (layer : Layer) :
    (ofToml layer whole).Gives fun leaf => (whole.at? leaf.path).bind Toml.scalar? := by
  -- A path leads to the same value as in the file, and a single value stays one.
  have both (leaf : Settings.Leaf) := at?_ofToml layer distinct (opens leaf)
  refine ⟨fun leaf => (both leaf).2, fun leaf => ⟨layer, ?_⟩⟩
  rw [(both leaf).1]
  cases found : whole.at? leaf.path with
  | none => rfl
  | some value =>
    obtain ⟨scalar, same⟩ := single leaf value found
    rw [Option.map_some, ofToml_scalar same, Option.bind_some, same]
    rfl

end Given

namespace Settings

/-- The single values that hold when nothing is given. -/
def usualScalar : Leaf → Scalar
  | .timeoutSeconds => .unsigned 5
  | .refreshMinutes => .unsigned 30
  | .template => .text usualTemplate
  | .left => .unsigned 50
  | .top => .unsigned 50
  | .width => .unsigned 300
  | .height => .unsigned 150
  | .targetWidth => .unsigned 1920
  | .targetHeight => .unsigned 1080
  | .previewScale => .float usualScale
  | .insecure => .bool false
  | .note => .nothing
  | .connectionsFile => .nothing
  | .authority => .nothing
  | .userAgent => .nothing

/-- The lowest layer gives the usual value of every leaf. -/
theorem usual_gives : usual.toGiven.Gives fun leaf => some (usualScalar leaf) := by
  refine ⟨fun leaf => ?_, fun leaf => ?_⟩
  · -- The keys of a leaf lead past the table of all settings, or into one further inside.
    cases leaf
    all_goals first
      | exact ⟨by decide, fun _ _ => trivial⟩
      | exact ⟨by decide, by rintro _ ⟨⟩; exact ⟨by decide, fun _ _ => trivial⟩⟩
  · cases leaf <;> exact ⟨.usual, rfl⟩

/-- The usual values are of the right types, and mean what the usual settings hold. -/
theorem read_usualScalar (leaf : Leaf) : leaf.kind.read? (usualScalar leaf) = some (leaf.get usual) := by
  cases leaf <;> rfl

/-- The value of a leaf: the one that a variable gives, or else the file's, or else the usual one. -/
def layered (file environment : Leaf → Option Scalar) (leaf : Leaf) : Option leaf.kind.Value :=
  match environment leaf with
  | some value => leaf.kind.read? value
  | none =>
    match file leaf with
    | some value => leaf.kind.read? value
    | none => some (leaf.get usual)

/-- Where the layers give values of the right types, they make settings, leaf by leaf. -/
theorem ofLayers_eq {file environment : Given} {fileValues environmentValues : Leaf → Option Scalar}
    (fileGives : file.Gives fileValues) (environmentGives : environment.Gives environmentValues)
    {values : (leaf : Leaf) → leaf.kind.Value}
    (typed : ∀ leaf, layered fileValues environmentValues leaf = some (values leaf)) :
    ofLayers file environment = .ok (ofLeaves values) := by
  have gives := (usual_gives.overlaid fileGives).overlaid environmentGives
  -- Of the three layers put over one another, each leaf sees the uppermost that gives it a value.
  have whole : Typed ((usual.toGiven.overlaid file).overlaid environment) values := by
    intro leaf
    obtain ⟨layer, reached⟩ := gives.reached leaf
    have meant := typed leaf
    rw [layered] at meant
    cases upon : environmentValues leaf with
    | some value =>
      rw [upon] at meant reached
      exact ⟨layer, value, reached, meant⟩
    | none =>
      rw [upon] at meant reached
      cases under : fileValues leaf with
      | some value =>
        rw [under] at meant reached
        exact ⟨layer, value, reached, meant⟩
      | none =>
        rw [under] at meant reached
        exact ⟨layer, usualScalar leaf, reached, (read_usualScalar leaf).trans meant⟩
  -- All layers are tables on the way to a leaf, so what they make together is one.
  rw [ofLayers]
  cases kind : (usual.toGiven.overlaid file).overlaid environment with
  | table layer items =>
    rw [kind] at whole
    exact toSettings_eq whole
  | scalar =>
    have opened := gives.opens .note
    rw [kind] at opened
    exact absurd opened id
  | list =>
    have opened := gives.opens .note
    rw [kind] at opened
    exact absurd opened id

end Settings

end Placard
