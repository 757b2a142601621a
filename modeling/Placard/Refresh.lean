import Placard.Registry.Shared
import Placard.Report

/-! Filling a template again and again, with the connections as they are each time. -/

namespace Placard

/-- A filled template with the time at which it was done. -/
structure Outcome where
  text : String
  renderedAt : Duration
deriving DecidableEq, Repr, Inhabited

/-- The shortest time between two renders. -/
def shortestInterval : Duration := .ofSeconds 1

/-- What is rendered again and again, and how the connections are read anew before each time. -/
structure Refresh (m : Type → Type) where
  renderer : Renderer m
  template : String
  interval : Duration
  facts : m Facts
  /-- Gives the connections as they are now, or nothing if they cannot be read. -/
  reload : Option (m (Option Registry))

namespace Refresh

/-- What may happen to the registry that a refresh shares. -/
inductive Step
  | render
  | replace (registry : Registry)
deriving DecidableEq, Repr, Inhabited

variable {m : Type → Type} [Monad m] [Machine m]

/-- A refresh whose interval is not too short. -/
def make (renderer : Renderer m) (template : String) (interval : Duration) (facts : m Facts)
    (reload : Option (m (Option Registry))) : Refresh m :=
  ⟨renderer, template, interval.longest shortestInterval, facts, reload⟩

/-- Reads the connections anew, where there is a way to. -/
def consult (refresh : Refresh m) : m (Option Registry) :=
  match refresh.reload with
  | none => return none
  | some reload => reload

/-- The template filled from a registry. -/
def fill (refresh : Refresh m) (registry : Registry) : m String := do
  let facts ← refresh.facts
  refresh.renderer.render refresh.template facts registry

/-- Reloads and renders once; connections that cannot be read stay as they are. -/
def renderOnce (refresh : Refresh m) (shared : Shared) : m (Outcome × Shared) := do
  let shared := shared.renew (← refresh.consult)
  let text ← refresh.fill (shared.read shared.snapshot)
  return (⟨text, ← Machine.now⟩, shared)

/-- Performs a step; a render has an outcome. -/
def perform (refresh : Refresh m) (shared : Shared) : Step → m (Option Outcome × Shared)
  | .render => do
    let (outcome, shared) ← refresh.renderOnce shared
    return (some outcome, shared)
  | .replace registry => return (none, shared.replace registry)

end Refresh

end Placard
