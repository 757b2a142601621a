import Mathlib.Data.List.Nodup

/-! Lists of keyed values: where no key comes twice, looking a key up is membership. -/

namespace Placard.Keyed

variable {α β : Type} [BEq α] [LawfulBEq α]

/-- A value that is found stands in the list, under the key that was looked up. -/
theorem mem_of_lookup {entries : List (α × β)} {key : α} {value : β}
    (found : entries.lookup key = some value) : (key, value) ∈ entries := by
  -- The search stops at an entry of the list and gives its value.
  obtain ⟨before, after, rfl, _⟩ := List.lookup_eq_some_iff.mp found
  simp

/-- Where no key comes twice, every entry is found under its key. -/
theorem lookup_of_mem {entries : List (α × β)} (distinct : (entries.map (·.1)).Nodup)
    {key : α} {value : β} (member : (key, value) ∈ entries) :
    entries.lookup key = some value := by
  -- An entry before the wanted one has another key, so the search passes it by.
  obtain ⟨before, after, rfl⟩ := List.mem_iff_append.mp member
  refine List.lookup_eq_some_iff.mpr ⟨before, after, rfl, fun entry earlier => ?_⟩
  rw [List.map_append, List.map_cons, List.nodup_append] at distinct
  have apart := distinct.2.2 entry.1 (List.mem_map_of_mem earlier) key (by simp)
  simpa using apart.symm

/-- Where no key comes twice, looking up finds exactly the entries of the list. -/
theorem lookup_eq_some_iff_mem {entries : List (α × β)}
    (distinct : (entries.map (·.1)).Nodup) {key : α} {value : β} :
    entries.lookup key = some value ↔ (key, value) ∈ entries :=
  ⟨mem_of_lookup, lookup_of_mem distinct⟩

/-- Where no key comes twice, the order of the entries does not matter for looking up. -/
theorem lookup_perm {entries others : List (α × β)} (distinct : (entries.map (·.1)).Nodup)
    (permuted : others.Perm entries) (key : α) : others.lookup key = entries.lookup key := by
  -- Both lists have the same members, and members are what looking up finds.
  have apart : (others.map (·.1)).Nodup := (permuted.map _).nodup_iff.mpr distinct
  refine Option.ext fun value => ?_
  rw [lookup_eq_some_iff_mem apart, lookup_eq_some_iff_mem distinct, permuted.mem_iff]

/-- A key is looked up alike in a list and in those of its entries that pass a test, if all under it do. -/
theorem lookup_filter (keeps : α × β → Bool) {key : α} (kept : ∀ value, keeps (key, value) = true)
    (entries : List (α × β)) : (entries.filter keeps).lookup key = entries.lookup key := by
  induction entries with
  | nil => rfl
  | cons entry others ih =>
    obtain ⟨name, held⟩ := entry
    by_cases here : key = name
    · subst here
      rw [List.filter_cons_of_pos (kept held), List.lookup_cons_self, List.lookup_cons_self]
    · have passed (rest : List (α × β)) : ((name, held) :: rest).lookup key = rest.lookup key := by
        rw [List.lookup_cons, beq_false_of_ne here]
      rw [passed, List.filter_cons]
      split
      · rw [passed, ih]
      · exact ih

/-- A key is not found exactly where no entry has it. -/
theorem lookup_eq_none_iff_any {entries : List (α × β)} {key : α} :
    entries.lookup key = none ↔ entries.any (·.1 == key) = false := by
  rw [List.lookup_eq_none_iff, List.any_eq_false]
  refine forall₂_congr fun entry _ => ?_
  rw [bne_iff_ne, beq_iff_eq]
  exact ne_comm

/-- In entries made one by one from their keys, a key is looked up as it was made, if it is one of them. -/
theorem lookup_filterMap {made? : α → Option (α × β)}
    (keyed : ∀ key entry, made? key = some entry → entry.1 = key) (keys : List α) (key : α) :
    (keys.filterMap made?).lookup key = if keys.contains key then (made? key).map (·.2) else none := by
  induction keys with
  | nil => rfl
  | cons first others ih =>
    by_cases here : key = first
    · subst here
      cases found : made? key with
      | none =>
        rw [List.filterMap_cons_none found, ih, found]
        simp
      | some entry =>
        obtain ⟨name, value⟩ := entry
        obtain rfl : name = key := keyed _ _ found
        rw [List.filterMap_cons_some found, List.lookup_cons_self]
        simp
    · have passed : (first :: others).contains key = others.contains key := by
        simp [here]
      rw [passed, ← ih]
      cases found : made? first with
      | none => rw [List.filterMap_cons_none found]
      | some entry =>
        obtain ⟨name, value⟩ := entry
        obtain rfl : name = first := keyed _ _ found
        rw [List.filterMap_cons_some found, List.lookup_cons, beq_false_of_ne here]

/-- Replacing the values of one key changes what is found under that key, and nothing else. -/
theorem lookup_replaced (entries : List (α × β)) (key other : α) (value : β) :
    (entries.map fun entry => if entry.1 == key then (key, value) else entry).lookup other =
      if other == key then (entries.lookup key).map fun _ => value else entries.lookup other := by
  -- Both look-ups stop at the same entry, as no entry changes its key.
  induction entries with
  | nil => simp
  | cons entry others ih =>
    obtain ⟨name, held⟩ := entry
    by_cases replaced : name = key
    · subst replaced
      by_cases wanted : other = name
      · simp [wanted]
      · have passed : (other == name) = false := beq_false_of_ne wanted
        simp [List.lookup_cons, passed, ih]
    · by_cases wanted : other = name
      · simp [wanted, replaced]
      · have passed : (other == name) = false := beq_false_of_ne wanted
        have unlike : (key == name) = false := beq_false_of_ne (Ne.symm replaced)
        simp [List.lookup_cons, passed, unlike, replaced, ih]

end Placard.Keyed
