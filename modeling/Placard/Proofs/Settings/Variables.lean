import Mathlib.Data.List.Induction
import Placard.Proofs.Settings.Layered

/-! Settings from variables: each gives the value of a leaf, and of several for one leaf the last counts. -/

namespace Placard

/-! ### Keys -/

/-- Neither of two paths goes on from the other. -/
def Apart (first second : List String) : Prop := ¬ first <+: second ∧ ¬ second <+: first

instance (first second : List String) : Decidable (Apart first second) :=
  inferInstanceAs (Decidable (¬ first <+: second ∧ ¬ second <+: first))

/-- The paths of two leaves are apart. -/
theorem Settings.Leaf.path_apart {first second : Leaf} (different : first ≠ second) :
    Apart first.path second.path := by
  -- The leaves are finitely many, so all pairs are compared.
  have each : ∀ first ∈ all, ∀ second ∈ all, first ≠ second → Apart first.path second.path := by
    decide
  exact each first (mem_all first) second (mem_all second) different

/-- The keys tell which leaf they lead to. -/
theorem Settings.Leaf.path_injective {first second : Leaf} (same : first.path = second.path) :
    first = second := by
  by_contra different
  exact (path_apart different).1 (same ▸ List.prefix_refl _)

namespace Given

/-- The single value that is given. -/
def scalar? : Given → Option Scalar
  | scalar _ value => some value
  | _ => none

/-- What gives a single value is one. -/
theorem eq_scalar {given : Given} {value : Scalar} (single : given.scalar? = some value) :
    ∃ layer, given = .scalar layer value := by
  cases given with
  | scalar layer held =>
    cases single
    exact ⟨layer, rfl⟩
  | list => cases single
  | table => cases single

end Given

namespace Variable

open Settings (Leaf)

/-- A value under keys is found where they lead. -/
theorem at?_nest (value : Given) (keys : List String) :
    (nest value keys).at? keys = some value ∧ (nest value keys).Opens keys := by
  -- Each key makes a table of one item, which leads on to the rest.
  induction keys with
  | nil => exact ⟨rfl, trivial⟩
  | cons key keys ih =>
    rw [nest]
    simp only [Given.at?, Given.Opens, List.lookup_cons_self, Option.bind_some]
    refine ⟨ih.1, List.nodup_singleton key, ?_⟩
    rintro inner ⟨⟩
    exact ih.2

/-- On a path that is apart from its keys, a value is not met. -/
theorem at?_nest_apart (value : Given) {keys path : List String} (apart : Apart keys path) :
    (nest value keys).at? path = none ∧ (nest value keys).Opens path := by
  -- Neither is empty, as nothing is apart from that; where the first keys are the same, the rest is apart.
  induction keys generalizing path with
  | nil => exact absurd List.nil_prefix apart.1
  | cons key keys ih =>
    cases path with
    | nil => exact absurd List.nil_prefix apart.2
    | cons step steps =>
      rw [nest]
      simp only [Given.at?, Given.Opens]
      by_cases same : step = key
      · subst same
        have rest : Apart keys steps := by simpa [Apart, List.cons_prefix_cons] using apart
        obtain ⟨absent, opened⟩ := ih rest
        rw [List.lookup_cons_self, Option.bind_some]
        refine ⟨absent, List.nodup_singleton step, ?_⟩
        rintro inner ⟨⟩
        exact opened
      · -- The only item is under another key, so the path ends at once.
        have other : List.lookup step [(key, nest value keys)] = none := by
          rw [List.lookup_cons, beq_false_of_ne same]
          rfl
        rw [other]
        exact ⟨rfl, List.nodup_singleton key, by rintro _ ⟨⟩⟩

/-! ### One variable -/

/-- A variable gives a single value of the right type to a leaf, or anything under keys of no leaf. -/
def Fits (variable_ : String × String) : Prop :=
  ∀ keys, keys? variable_.1 = some keys →
    (∃ leaf : Leaf, keys = leaf.path ∧
      ∃ scalar, (readValue variable_.2).scalar? = some scalar ∧ (leaf.kind.read? scalar).isSome) ∨
    ∀ leaf : Leaf, Apart keys leaf.path

/-- The name of the variable for a leaf: its keys in capital letters, with two underscores between them. -/
def name (leaf : Leaf) : String :=
  settingPrefix ++ Text.joinWith "__" (leaf.path.map fun key => .ofList (key.toList.map Char.toUpper))

/-- The name of the variable for a leaf leads to the leaf. -/
theorem keys?_name (leaf : Leaf) : keys? (name leaf) = some leaf.path := by
  cases leaf <;> rfl

/-- A variable whose keys lead to a leaf fits where its value is a single one of the right type. -/
theorem fits_of_keys {leaf : Leaf} {name text : String} {scalar : Scalar}
    (named : keys? name = some leaf.path) (single : (readValue text).scalar? = some scalar)
    (typed : (leaf.kind.read? scalar).isSome) : Fits (name, text) := by
  intro keys same
  cases named.symm.trans same
  exact .inl ⟨leaf, rfl, scalar, single, typed⟩

/-- A variable for a leaf fits where its value is a single one of the right type. -/
theorem fits_name {leaf : Leaf} {text : String} {scalar : Scalar}
    (single : (readValue text).scalar? = some scalar) (typed : (leaf.kind.read? scalar).isSome) :
    Fits (name leaf, text) :=
  fits_of_keys (keys?_name leaf) single typed

/-- A variable that fits gives its value to the leaf of its keys, and nothing to other leaves. -/
theorem nest_gives {name text : String} (fits : Fits (name, text)) {keys : List String}
    (named : keys? name = some keys) : (nest (readValue text) keys).Gives fun leaf =>
      if keys = leaf.path then (readValue text).scalar? else none := by
  have elsewhere {leaf : Leaf} (apart : Apart keys leaf.path) : keys ≠ leaf.path := by
    rintro rfl
    exact apart.1 (List.prefix_refl _)
  rcases fits keys named with ⟨own, rfl, scalar, single, -⟩ | apart
  · -- The keys lead to one leaf, and so are apart from the paths of all others.
    obtain ⟨layer, same⟩ := Given.eq_scalar single
    have each (leaf : Leaf) : (nest (readValue text) own.path).Opens leaf.path ∧
        (nest (readValue text) own.path).at? leaf.path =
          (if own.path = leaf.path then some scalar else none).map (Given.scalar layer) := by
      by_cases here : own = leaf
      · subst here
        obtain ⟨reached, opened⟩ := at?_nest (readValue text) own.path
        rw [if_pos rfl, reached, same]
        exact ⟨same ▸ opened, rfl⟩
      · have apart := Leaf.path_apart here
        obtain ⟨absent, opened⟩ := at?_nest_apart (readValue text) apart
        rw [if_neg (elsewhere apart), absent]
        exact ⟨opened, rfl⟩
    rw [single]
    exact ⟨fun leaf => (each leaf).1, fun leaf => ⟨layer, (each leaf).2⟩⟩
  · -- The keys lead to no leaf, so whatever the value is, none meets it.
    have each (leaf : Leaf) := at?_nest_apart (readValue text) (apart leaf)
    refine ⟨fun leaf => (each leaf).2, fun leaf => ⟨.environment, ?_⟩⟩
    rw [(each leaf).1, if_neg (elsewhere (apart leaf))]
    rfl

/-! ### All variables -/

/-- The single value that variables give to a leaf; of several ones for it, the last counts. -/
def scalarFor? (environment : List (String × String)) (leaf : Leaf) : Option Scalar :=
  (environment.reverse.find? fun entry => keys? entry.1 = some leaf.path).bind fun entry =>
    (readValue entry.2).scalar?

/-- The last variable counts, if it is one for the leaf. -/
theorem scalarFor?_concat (environment : List (String × String)) (name text : String) (leaf : Leaf) :
    scalarFor? (environment ++ [(name, text)]) leaf =
      if keys? name = some leaf.path then (readValue text).scalar? else scalarFor? environment leaf := by
  rw [scalarFor?, List.reverse_concat, List.find?_cons]
  by_cases last : keys? name = some leaf.path
  · simp [last]
  · simp [last, scalarFor?]

/-- A variable counts if none behind it is for the same leaf. -/
theorem scalarFor?_last {before after : List (String × String)} {name text : String} {leaf : Leaf}
    (named : keys? name = some leaf.path) (last : ∀ entry ∈ after, keys? entry.1 ≠ some leaf.path) :
    scalarFor? (before ++ (name, text) :: after) leaf = (readValue text).scalar? := by
  -- Read from the last variable on, those behind are passed over, and those before are not reached.
  have behind : after.reverse.find? (fun entry => keys? entry.1 = some leaf.path) = none := by
    rw [List.find?_eq_none]
    intro entry among
    simpa using last entry (List.mem_reverse.mp among)
  rw [scalarFor?, List.reverse_append, List.reverse_cons, List.append_assoc, List.find?_append, behind,
    Option.none_or, List.singleton_append, List.find?_cons]
  simp [named]

/-- One more variable goes over the others. -/
theorem layer_concat (environment : List (String × String)) (name text : String) :
    layer (environment ++ [(name, text)]) =
      match keys? name with
      | some keys => (layer environment).overlaid (nest (readValue text) keys)
      | none => layer environment := by
  rw [layer, List.foldl_concat]
  rfl

/-- Variables that give no setting give nothing together. -/
theorem layer_foreign {environment : List (String × String)}
    (foreign : ∀ entry ∈ environment, keys? entry.1 = none) :
    layer environment = .table .environment [] := by
  -- Each of them is passed over, so the layer stays what it was before the first.
  induction environment using List.reverseRecOn with
  | nil => rfl
  | append_singleton others entry ih =>
    rw [layer_concat, foreign entry (List.mem_append_right _ List.mem_cons_self)]
    exact ih fun entry earlier => foreign entry (List.mem_append_left _ earlier)

/-- Variables that fit give each leaf the value of the last one for it. -/
theorem layer_gives {environment : List (String × String)} (fits : ∀ entry ∈ environment, Fits entry) :
    (layer environment).Gives (scalarFor? environment) := by
  -- The induction takes the variables from the last one on, as the last one is uppermost.
  induction environment using List.reverseRecOn with
  | nil => exact Given.gives_nothing .environment
  | append_singleton others entry ih =>
    obtain ⟨name, text⟩ := entry
    have below := ih fun entry earlier => fits entry (List.mem_append_left _ earlier)
    have own : Fits (name, text) := fits _ (List.mem_append_right _ List.mem_cons_self)
    rw [layer_concat]
    cases named : keys? name with
    | none =>
      -- A variable of another name changes nothing, and gives nothing.
      have same : scalarFor? (others ++ [(name, text)]) = scalarFor? others := by
        funext leaf
        rw [scalarFor?_concat, named, if_neg (by simp)]
      rw [same]
      exact below
    | some keys =>
      have both := below.overlaid (nest_gives own named)
      have same : scalarFor? (others ++ [(name, text)]) = fun leaf =>
          (if keys = leaf.path then (readValue text).scalar? else none).or (scalarFor? others leaf) := by
        funext leaf
        rw [scalarFor?_concat, named]
        by_cases here : keys = leaf.path
        · -- For its own leaf the last variable has a single value, which hides those before it.
          rcases own keys named with ⟨_, -, scalar, single, -⟩ | apart
          · simp [here, single]
          · exact absurd (here ▸ List.prefix_refl _) (apart leaf).1
        · rw [if_neg (by simpa using here), if_neg here, Option.none_or]
      rw [same]
      exact both

/-- The value that variables give to a leaf is of the right type, if each of them fits. -/
theorem typed_scalarFor? {environment : List (String × String)}
    (fits : ∀ entry ∈ environment, Fits entry) {leaf : Leaf} {scalar : Scalar}
    (given : scalarFor? environment leaf = some scalar) : (leaf.kind.read? scalar).isSome := by
  obtain ⟨entry, found, single⟩ := Option.bind_eq_some_iff.mp given
  have among := List.mem_reverse.mp (List.mem_of_find?_eq_some found)
  have named : keys? entry.1 = some leaf.path := by simpa using List.find?_some found
  rcases fits entry among leaf.path named with ⟨own, same, value, held, typed⟩ | apart
  · cases Leaf.path_injective same
    cases single.symm.trans held
    exact typed
  · exact absurd (List.prefix_refl _) (apart leaf).1

end Variable

end Placard
