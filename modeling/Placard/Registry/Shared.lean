import Placard.Registry

/-! A registry that is shared, while others are published in its place. -/

namespace Placard

/-- The registry that is shared now, with those that were shared before it, the oldest first. -/
structure Shared where
  current : Registry
  earlier : Array Registry
deriving DecidableEq, Repr, Inhabited

/-- A hold on one of the registries that have been shared, counted from the oldest. -/
structure Snapshot where
  version : Nat
deriving DecidableEq, Repr, Inhabited

namespace Shared

/-- The first registry to be shared. -/
def ofRegistry (registry : Registry) : Shared := ⟨registry, #[]⟩

/-- Shares another registry from now on. -/
def replace (shared : Shared) (registry : Registry) : Shared :=
  ⟨registry, shared.earlier.push shared.current⟩

/-- Shares a registry that was read anew, if there is one. -/
def renew (shared : Shared) : Option Registry → Shared
  | some fresh => shared.replace fresh
  | none => shared

/-- Takes hold of the registry that is shared now. -/
def snapshot (shared : Shared) : Snapshot := ⟨shared.earlier.size⟩

/-- The registry that a snapshot took hold of. -/
def read (shared : Shared) (snapshot : Snapshot) : Registry :=
  shared.earlier.getD snapshot.version shared.current

end Shared

end Placard
