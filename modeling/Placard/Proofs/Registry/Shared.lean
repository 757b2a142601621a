import Placard.Registry.Shared

/-! Snapshots of a shared registry: what is published later does not reach them. -/

namespace Placard

/-- Snapshots that can be read from one handle are read alike from another one. -/
def Shared.Keeps (shared later : Shared) : Prop :=
  ∀ held : Snapshot, held.version ≤ shared.earlier.size →
    held.version ≤ later.earlier.size ∧ later.read held = shared.read held

namespace Shared

/-- A snapshot that was just taken shows the registry that is shared. -/
@[simp] theorem read_snapshot (shared : Shared) : shared.read shared.snapshot = shared.current := by
  simp [read, snapshot]

/-- A replacement is what is shared from then on. -/
@[simp] theorem replace_current (shared : Shared) (registry : Registry) :
    (shared.replace registry).current = registry := rfl

/-- What reloading gave is shared from then on; if it gave nothing, all stays. -/
@[simp] theorem renew_current (shared : Shared) (fresh : Option Registry) :
    (shared.renew fresh).current = fresh.getD shared.current := by
  cases fresh <;> rfl

/-- A handle keeps its own snapshots. -/
theorem Keeps.refl (shared : Shared) : shared.Keeps shared := fun _ known => ⟨known, rfl⟩

/-- What is kept twice is kept. -/
theorem Keeps.trans {first second third : Shared} (kept : first.Keeps second)
    (again : second.Keeps third) : first.Keeps third := by
  intro held known
  obtain ⟨found, same⟩ := kept held known
  obtain ⟨still, equal⟩ := again held found
  exact ⟨still, equal.trans same⟩

/-- A replacement keeps all snapshots, that of the registry it replaces too. -/
theorem keeps_replace (shared : Shared) (registry : Registry) : shared.Keeps (shared.replace registry) := by
  intro held known
  refine ⟨by simp only [replace, Array.size_push]; omega, ?_⟩
  -- The registry that was shared until now stands behind the earlier ones from now on.
  by_cases last : held.version = shared.earlier.size
  · simp [read, replace, last]
  · have before : held.version < shared.earlier.size := by omega
    simp [read, replace, Array.getElem_push_lt, before, Nat.lt_succ_of_lt before]

/-- Reloading keeps all snapshots. -/
theorem keeps_renew (shared : Shared) (fresh : Option Registry) : shared.Keeps (shared.renew fresh) := by
  cases fresh with
  | none => exact .refl shared
  | some registry => exact shared.keeps_replace registry

end Shared

end Placard
