import Placard.Proofs.Registry.Run

/-! Operations on a registry, seen as changes of the list of its connections. -/

namespace Placard.Registry

/-- Some connection of a list has a name. -/
def Named (connections : List Connection) (name : String) : Prop :=
  ∃ connection ∈ connections, connection.name = name

/-! ### What the operations do to lists -/

/-- Adding refuses a blank name, then a name that is used, and else puts the connection last. -/
inductive Added (held : List Connection) (new : Connection) :
    Except RegistryError (List Connection) → Prop
  | blank (blank : Text.allBlank new.name = true) : Added held new (.error .emptyName)
  | taken (filled : Text.allBlank new.name = false) (taken : Named held new.name) :
      Added held new (.error (.duplicateName new.name))
  | appended (filled : Text.allBlank new.name = false) (free : ¬ Named held new.name) :
      Added held new (.ok (held ++ [new]))

/-- Updating refuses a blank name, then an absent one, then the name of another connection.

Else the new connection stands where the old one stood, between the same others. -/
inductive Updated (held : List Connection) (name : String) (new : Connection) :
    Except RegistryError (List Connection) → Prop
  | blank (blank : Text.allBlank new.name = true) : Updated held name new (.error .emptyName)
  | absent (filled : Text.allBlank new.name = false) (absent : ¬ Named held name) :
      Updated held name new (.error (.notFound name))
  | taken (filled : Text.allBlank new.name = false) (present : Named held name)
      (renamed : new.name ≠ name) (taken : Named held new.name) :
      Updated held name new (.error (.duplicateName new.name))
  | replaced (filled : Text.allBlank new.name = false)
      (free : new.name = name ∨ ¬ Named held new.name)
      (before : List Connection) (old : Connection) (after : List Connection)
      (place : held = before ++ old :: after) (called : old.name = name) :
      Updated held name new (.ok (before ++ new :: after))

/-- Removing refuses an absent name, and else gives the connection and leaves all others. -/
inductive Removed (held : List Connection) (name : String) :
    Except RegistryError (Connection × List Connection) → Prop
  | absent (absent : ¬ Named held name) : Removed held name (.error (.notFound name))
  | removed (before : List Connection) (old : Connection) (after : List Connection)
      (place : held = before ++ old :: after) (called : old.name = name) :
      Removed held name (.ok (old, before ++ after))

/-! ### Entries and lists -/

/-- A sound registry holds exactly the names of its connections. -/
theorem Sound.holds_iff_named {registry : Registry} (sound : registry.Sound) {name : String} :
    registry.holds name = true ↔ Named registry.toList name := by
  -- Every key is the name in its own record, so the keys are the names.
  rw [holds_iff]
  constructor
  · intro listed
    obtain ⟨entry, member, rfl⟩ := List.mem_map.mp listed
    exact ⟨entry.2, List.mem_map_of_mem member, (sound.keyed entry member).symm⟩
  · rintro ⟨connection, member, rfl⟩
    obtain ⟨entry, listed, rfl⟩ := List.mem_map.mp member
    rw [← sound.keyed entry listed]
    exact List.mem_map_of_mem listed

/-- A name that a sound registry does not hold is the name of none of its connections. -/
theorem Sound.not_named {registry : Registry} (sound : registry.Sound) {name : String}
    (free : registry.holds name = false) : ¬ Named registry.toList name := by
  intro named
  have held := sound.holds_iff_named.mpr named
  rw [free] at held
  cases held

/-- An entry takes the place of the first one of a name, and the others stay where they are. -/
theorem replaceEntry_append {name : String} {before : List (String × Connection)}
    (passed : name ∉ before.map (·.1)) (old entry : String × Connection) (same : old.1 = name)
    (after : List (String × Connection)) :
    replaceEntry name entry (before ++ old :: after) = before ++ entry :: after := by
  -- The search passes over the entries before the place, none of which has the name.
  induction before with
  | nil =>
    show replaceEntry name entry (old :: after) = entry :: after
    rw [replaceEntry, if_pos same]
  | cons held others ih =>
    have different : held.1 ≠ name := by
      intro equal
      exact passed (equal ▸ List.mem_cons_self)
    have later : name ∉ others.map (·.1) := fun member => passed (List.mem_cons_of_mem _ member)
    rw [List.cons_append, replaceEntry, if_neg different, ih later, List.cons_append]

/-- The first entry of a name is taken out, and the others keep their order. -/
theorem removeEntry_append {name : String} {before : List (String × Connection)}
    (passed : name ∉ before.map (·.1)) (old : String × Connection) (same : old.1 = name)
    (after : List (String × Connection)) :
    removeEntry name (before ++ old :: after) = before ++ after := by
  -- As for replacing, no entry before the place has the name.
  induction before with
  | nil =>
    show removeEntry name (old :: after) = after
    rw [removeEntry, if_pos same]
  | cons held others ih =>
    have different : held.1 ≠ name := by
      intro equal
      exact passed (equal ▸ List.mem_cons_self)
    have later : name ∉ others.map (·.1) := fun member => passed (List.mem_cons_of_mem _ member)
    rw [List.cons_append, removeEntry, if_neg different, ih later, List.cons_append]

/-- A name that is found stands at one place, with entries of other names before it. -/
theorem exists_place {registry : Registry} {name : String} {old : Connection}
    (found : registry.get? name = some old) :
    ∃ before after, registry.entries = before ++ (name, old) :: after ∧
      name ∉ before.map (·.1) := by
  -- Looking up stops at the first entry of the name.
  obtain ⟨before, after, place, others⟩ := List.lookup_eq_some_iff.mp found
  refine ⟨before, after, place, ?_⟩
  intro member
  obtain ⟨entry, earlier, same⟩ := List.mem_map.mp member
  have different := others entry earlier
  rw [same, bne_self_eq_false] at different
  cases different

/-! ### The operations as changes of lists -/

/-- Adding to a sound registry adds to the list of its connections. -/
theorem Sound.added {registry : Registry} (sound : registry.Sound) (connection : Connection) :
    Added registry.toList connection ((registry.add connection).map toList) := by
  rw [add_eq]
  -- The cases are the two tests of the name, in the order in which they are made.
  by_cases blank : Text.allBlank connection.name = true
  · rw [if_pos blank]
    exact .blank blank
  have filled : Text.allBlank connection.name = false := by simpa using blank
  rw [if_neg blank]
  by_cases held : registry.holds connection.name = true
  · rw [if_pos held]
    exact .taken filled (sound.holds_iff_named.mp held)
  · rw [if_neg held, map_ok]
    have last : toList ⟨registry.entries ++ [(connection.name, connection)]⟩ =
        registry.toList ++ [connection] := by
      simp [toList]
    rw [last]
    exact .appended filled (sound.not_named (by simpa using held))

/-- Updating a sound registry updates the list of its connections. -/
theorem Sound.updated {registry : Registry} (sound : registry.Sound) (name : String)
    (connection : Connection) :
    Updated registry.toList name connection ((registry.update name connection).map toList) := by
  -- The tests come in their order: a blank name, an absent one, and the name of another connection.
  rw [update_eq]
  by_cases blank : Text.allBlank connection.name = true
  · rw [if_pos blank]
    exact .blank blank
  have filled : Text.allBlank connection.name = false := by simpa using blank
  rw [if_neg blank]
  cases found : registry.get? name with
  | none =>
    have absent : registry.holds name = false := by rw [holds, found, Option.isSome_none]
    rw [absent, Bool.not_false, if_pos rfl]
    exact .absent filled (sound.not_named absent)
  | some old =>
    have held : registry.holds name = true := by rw [holds, found, Option.isSome_some]
    rw [held, Bool.not_true, if_neg Bool.false_ne_true]
    by_cases taken : (connection.name != name && registry.holds connection.name) = true
    · rw [if_pos taken]
      obtain ⟨renamed, other⟩ := Bool.and_eq_true_iff.mp taken
      exact .taken filled (sound.holds_iff_named.mp held) (by simpa using renamed)
        (sound.holds_iff_named.mp other)
    · rw [if_neg taken, map_ok]
      -- The entry of the name has a place, and the new one is put exactly there.
      obtain ⟨before, after, place, passed⟩ := exists_place found
      have called : old.name = name := (sound.get?_eq_some_iff.mp found).2
      have changed : toList ⟨replaceEntry name (connection.name, connection) registry.entries⟩ =
          before.map (·.2) ++ connection :: after.map (·.2) := by
        rw [place, replaceEntry_append passed _ _ rfl]
        simp [toList]
      rw [changed]
      refine .replaced filled ?_ (before.map (·.2)) old (after.map (·.2)) ?_ called
      · by_cases kept : connection.name = name
        · exact .inl kept
        · exact .inr (sound.not_named (by simpa [kept] using taken))
      · simp [toList, place]

/-- Removing from a sound registry removes from the list of its connections. -/
theorem Sound.removed {registry : Registry} (sound : registry.Sound) (name : String) :
    Removed registry.toList name
      ((registry.remove name).map fun (old, kept) => (old, kept.toList)) := by
  rw [Registry.remove]
  cases found : registry.get? name with
  | none =>
    exact .absent (sound.not_named (by rw [holds, found, Option.isSome_none]))
  | some old =>
    -- The entry of the name has a place, and what stands around it is kept.
    obtain ⟨before, after, place, passed⟩ := exists_place found
    have called : old.name = name := (sound.get?_eq_some_iff.mp found).2
    have kept : toList ⟨removeEntry name registry.entries⟩ =
        before.map (·.2) ++ after.map (·.2) := by
      rw [place, removeEntry_append passed _ rfl]
      simp [toList]
    show Removed registry.toList name (.ok (old, toList ⟨removeEntry name registry.entries⟩))
    rw [kept]
    have standing : registry.toList = before.map (·.2) ++ old :: after.map (·.2) := by
      simp [toList, place]
    exact .removed (before.map (·.2)) old (after.map (·.2)) standing called

/-- After a connection was renamed, nothing is found under its old name. -/
theorem Sound.get?_renamed {registry next : Registry} (sound : registry.Sound) {name : String}
    {connection : Connection} (updated : registry.update name connection = .ok next)
    (renamed : connection.name ≠ name) : next.get? name = none := by
  have after : next.Sound := sound.update updated
  have listed := sound.updated name connection
  rw [updated, map_ok] at listed
  -- Names are distinct, so the replaced connection was the only one of its name.
  generalize lists : next.toList = changed at listed
  cases listed with
  | replaced filled free before old rest place called =>
    rw [Option.eq_none_iff_forall_ne_some]
    intro other found
    obtain ⟨member, same⟩ := after.get?_eq_some_iff.mp found
    have distinct := sound.distinct
    rw [place, List.map_append, List.map_cons, List.nodup_middle, List.nodup_cons, called,
      ← List.map_append] at distinct
    rw [lists] at member
    rcases List.mem_append.mp member with earlier | later
    · exact distinct.1 (List.mem_map.mpr ⟨other, List.mem_append_left _ earlier, same⟩)
    · rcases List.mem_cons.mp later with new | behind
      · exact renamed (new ▸ same)
      · exact distinct.1 (List.mem_map.mpr ⟨other, List.mem_append_right _ behind, same⟩)

/-- In every registry that operations lead to, each operation is the change of a list.

Adding puts last, updating replaces in place, removing takes out one, and a refused operation
changes nothing at all. -/
theorem run_refines (actions : List Action) :
    (∀ connection,
      Added (run actions).toList connection (((run actions).add connection).map toList)) ∧
    (∀ name connection,
      Updated (run actions).toList name connection
        (((run actions).update name connection).map toList)) ∧
    (∀ name connection next, (run actions).update name connection = .ok next →
      connection.name ≠ name → next.get? name = none) ∧
    (∀ name,
      Removed (run actions).toList name
        (((run actions).remove name).map fun (old, kept) => (old, kept.toList))) ∧
    (∀ connection refused, (run actions).add connection = .error refused →
      (run (actions ++ [.add connection])).toList = (run actions).toList) ∧
    (∀ name connection refused, (run actions).update name connection = .error refused →
      (run (actions ++ [.update name connection])).toList = (run actions).toList) ∧
    (∀ name refused, (run actions).remove name = .error refused →
      (run (actions ++ [.remove name])).toList = (run actions).toList) := by
  -- Whatever operations led there, the registry is sound, and so is what one more makes of it.
  have sound := run_sound actions
  have last : ∀ action, run (actions ++ [action]) = (run actions).perform action := by
    intro action
    rw [run, List.foldl_append, ← run, List.foldl_cons, List.foldl_nil]
  refine ⟨sound.added, sound.updated, fun name connection next updated renamed =>
    sound.get?_renamed updated renamed, sound.removed, ?_, ?_, ?_⟩
  · intro connection refused failed
    rw [last, perform, failed, left]
  · intro name connection refused failed
    rw [last, perform, failed, left]
  · intro name refused failed
    rw [last, perform, failed]
    rfl

end Placard.Registry
