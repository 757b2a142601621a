import Placard.Proofs.Keyed
import Placard.Settings.Given

/-! Layers over one another: along a path of tables, the upper layer wins where it gives a value. -/

namespace Placard.Given

/-- The value at the end of a path of keys. -/
def at? (given : Given) : List String → Option Given
  | [] => some given
  | key :: keys =>
    match given with
    | .table _ items => (items.lookup key).bind (·.at? keys)
    | _ => none

/-- A path does not end early: as far as the value goes, there are tables on the way, and in none of
them a key comes twice. -/
def Opens (given : Given) : List String → Prop
  | [] => True
  | key :: keys =>
    match given with
    | .table _ items => (items.map (·.1)).Nodup ∧
        ∀ inner, items.lookup key = some inner → inner.Opens keys
    | _ => False

/-- The value is a single one. -/
def IsScalar (given : Given) : Prop := ∃ layer value, given = .scalar layer value

/-! ### Items -/

/-- A value that is put under a key is found there, and other keys keep what they lead to. -/
theorem lookup_put (items : List (String × Given)) (key other : String) (value : Given) :
    (put items key value).lookup other = if other = key then some value else items.lookup other := by
  -- The key is looked for from the front, as it is when it is put.
  induction items with
  | nil =>
    by_cases same : other = key
    · simp [put, same]
    · simp [put, same, List.lookup_cons, beq_false_of_ne same]
  | cons item others ih =>
    obtain ⟨name, held⟩ := item
    rw [put]
    by_cases here : name = key
    · subst here
      by_cases same : other = name
      · simp [same]
      · simp [same, List.lookup_cons, beq_false_of_ne same]
    · rw [if_neg here, List.lookup_cons, ih, List.lookup_cons]
      by_cases first : other = name
      · subst first
        simp [here]
      · simp [beq_false_of_ne first]

/-- Putting a value keeps the keys, or adds the one that is put. -/
theorem keys_put (items : List (String × Given)) (key : String) (value : Given) :
    (put items key value).map (·.1) = items.map (·.1) ∨
      key ∉ items.map (·.1) ∧ (put items key value).map (·.1) = items.map (·.1) ++ [key] := by
  -- The value is put at the first item of the key, or behind all items.
  induction items with
  | nil => exact .inr ⟨by simp, rfl⟩
  | cons item others ih =>
    obtain ⟨name, held⟩ := item
    rw [put]
    by_cases here : name = key
    · rw [if_pos here]
      exact .inl rfl
    · rw [if_neg here]
      rcases ih with kept | ⟨fresh, added⟩
      · exact .inl (by simp [kept])
      · exact .inr ⟨by simp [fresh, Ne.symm here], by simp [added]⟩

/-- Putting a value never makes a key come twice. -/
theorem nodup_put {items : List (String × Given)} (distinct : (items.map (·.1)).Nodup) (key : String)
    (value : Given) : ((put items key value).map (·.1)).Nodup := by
  rcases keys_put items key value with kept | ⟨fresh, added⟩
  · rw [kept]
    exact distinct
  · rw [added, List.nodup_append]
    refine ⟨distinct, List.nodup_singleton key, fun first earlier second last => ?_⟩
    rw [List.mem_singleton] at last
    rintro rfl
    exact fresh (last ▸ earlier)

/-- The value that stands under a key once another one was put over it. -/
def joined : Option Given → Option Given → Option Given
  | lower, none => lower
  | none, some upper => some upper
  | some lower, some upper => some (lower.overlaid upper)

/-- Items put over others: under each key, what both layers give is joined. -/
theorem lookup_overlaidItems {upper : List (String × Given)} (distinct : (upper.map (·.1)).Nodup)
    (lower : List (String × Given)) (key : String) :
    (overlaidItems lower upper).lookup key = joined (lower.lookup key) (upper.lookup key) := by
  induction upper generalizing lower with
  | nil =>
    rw [overlaidItems]
    rfl
  | cons item others ih =>
    obtain ⟨name, value⟩ := item
    rw [List.map_cons, List.nodup_cons] at distinct
    rw [overlaidItems, ih distinct.2, lookup_put, List.lookup_cons]
    by_cases here : key = name
    · -- The key does not come again, so nothing is put over it later.
      subst here
      have last : others.lookup key = none := by
        rw [List.lookup_eq_none_iff]
        intro item member
        have apart : item.1 ≠ key := by
          rintro rfl
          exact distinct.1 (List.mem_map.mpr ⟨item, member, rfl⟩)
        simpa using apart.symm
      rw [last]
      cases lower.lookup key <;> simp [joined]
    · rw [if_neg here, beq_false_of_ne here]

/-- Items put over others never make a key come twice. -/
theorem nodup_overlaidItems {lower : List (String × Given)} (distinct : (lower.map (·.1)).Nodup)
    (upper : List (String × Given)) : ((overlaidItems lower upper).map (·.1)).Nodup := by
  induction upper generalizing lower with
  | nil =>
    rw [overlaidItems]
    exact distinct
  | cons item others ih =>
    rw [overlaidItems]
    exact ih (nodup_put distinct item.1 _)

/-- A single value replaces whatever it is put over. -/
@[simp] theorem overlaid_scalar (lower : Given) (layer : Layer) (value : Scalar) :
    lower.overlaid (.scalar layer value) = .scalar layer value := by
  rw [overlaid]
  rintro _ _ ⟨⟩

/-! ### Paths -/

/-- Where both layers have tables on the way, the upper one gives the value, or else the lower one. -/
theorem at?_overlaid {lower upper : Given} {path : List String} (below : lower.Opens path)
    (above : upper.Opens path) (single : ∀ value, upper.at? path = some value → value.IsScalar) :
    (lower.overlaid upper).at? path = (upper.at? path).or (lower.at? path) ∧
      (lower.overlaid upper).Opens path := by
  -- Along the path, both layers are tables and are joined key by key.
  induction path generalizing lower upper with
  | nil =>
    obtain ⟨layer, value, rfl⟩ := single upper rfl
    rw [overlaid_scalar]
    exact ⟨rfl, trivial⟩
  | cons key keys ih =>
    cases lower with
    | scalar => exact absurd below id
    | list => exact absurd below id
    | table lowerLayer lowerItems =>
      cases upper with
      | scalar => exact absurd above id
      | list => exact absurd above id
      | table layer items =>
        have looked := lookup_overlaidItems above.1 lowerItems key
        have distinct := nodup_overlaidItems below.1 items
        rw [overlaid]
        simp only [at?, Opens, looked]
        cases found : items.lookup key with
        | none =>
          simp only [joined, Option.bind_none, Option.none_or, true_and]
          exact ⟨distinct, below.2⟩
        | some value =>
          have opened := above.2 value found
          have scalar : ∀ final, value.at? keys = some final → final.IsScalar := by
            intro final reached
            apply single
            simp only [at?, found, Option.bind_some, reached]
          cases held : lowerItems.lookup key with
          | none =>
            simp only [joined, Option.bind_some, Option.bind_none, Option.or_none, true_and]
            refine ⟨distinct, ?_⟩
            rintro other ⟨⟩
            exact opened
          | some lowerValue =>
            have both := ih (below.2 lowerValue held) opened scalar
            simp only [joined, Option.bind_some]
            refine ⟨both.1, distinct, ?_⟩
            rintro other ⟨⟩
            exact both.2

end Placard.Given
