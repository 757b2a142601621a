import Placard.Proofs.Command.Together
import Placard.Proofs.Registry.Veiled

/-! Listing and showing connections that are the same on two machines, but for what their secrets are. -/

namespace Placard

/-- Two registries hold the same connections, but for what their secrets are. -/
def SameVeiled (registry registry' : Registry) : Prop := registry'.veiled = registry.veiled

variable {alike : Disk → Disk → Prop} {start start' world world' : World} {seen : Place → Prop}
  {context context' : Context}

/-- A connection is looked for alike, and what is found is the same but for the secret. -/
theorem LookAlike.find {registry registry' : Registry} (same : SameVeiled registry registry') (name : String) :
    LookAlike (fun connection connection' => connection'.veiled = connection.veiled)
      (Command.find registry name) (Command.find registry' name) world world' := by
  -- Veiling keeps names, so it may come before the look or after it.
  have found : (registry'.get? name).map Connection.veiled = (registry.get? name).map Connection.veiled := by
    rw [← Registry.get?_mapConnections, ← Registry.get?_mapConnections]
    exact congrArg (·.get? name) same
  unfold LookAlike
  rw [outcome_find, outcome_find]
  cases here : registry.get? name with
  | none =>
    rw [here, Option.map_none, Option.map_eq_none_iff] at found
    rw [found]
    exact ⟨_, _, .error _, rfl, rfl⟩
  | some connection =>
    rw [here, Option.map_some, Option.map_eq_some_iff] at found
    obtain ⟨connection', there, veiled⟩ := found
    rw [there]
    exact ⟨_, _, .ok veiled, rfl, rfl⟩

/-- The summary of a connection is made by looking at the disk. -/
theorem looks_summarize (world : World) (connection : Connection) :
    Looks (Command.summarize connection) world (connection.summaryOn world.disk) := rfl

/-- On disks of the same shape, the same is told of a connection. -/
theorem Disk.Alike.summaryOn {disk disk' : Disk} (shape : disk.Alike seen disk')
    (connection : Connection) : connection.summaryOn disk' = connection.summaryOn disk := by
  rw [Connection.summaryOn, Connection.summaryOn, Connection.kindOn, Connection.kindOn, shape.node?_kind]

/-- Two actions that look and find what belongs together look alike. -/
theorem LookAlike.of_looks {α β : Type} {related : α → β → Prop}
    {action : ExceptT Failure (StateM World) α} {action' : ExceptT Failure (StateM World) β} {value : α}
    {value' : β} (looks : Looks action world value) (looks' : Looks action' world' value')
    (same : related value value') : LookAlike related action action' world world' :=
  ⟨_, _, .ok same, looks, looks'⟩

/-- Connections that are the same but for what their secrets are are listed alike. -/
theorem GoAlike.list (shape : world.disk.Alike seen world'.disk)
    (registries : LookAlike SameVeiled context.registry context'.registry world world')
    (together : Together alike start start' world world') (presentation : Presentation) :
    GoAlike alike start start' (Command.runList context presentation)
      (Command.runList context' presentation) world world' := by
  refine registries.bind together fun registry registry' veiled => ?_
  -- Whether there is anything to list does not depend on secrets.
  have lists : registry'.toList.map Connection.veiled = registry.toList.map Connection.veiled :=
    Registry.toList_veiled veiled
  have empty : registry'.toList.isEmpty = registry.toList.isEmpty := by
    simpa using congrArg List.isEmpty lists
  rw [empty]
  split
  · exact .remark together presentation _
  · -- What is told of each connection is what is told of the veiled one.
    have told : registry'.toList.map (·.summaryOn world'.disk) =
        registry.toList.map (·.summaryOn world.disk) := by
      have veils (connections : List Connection) : connections.map (·.summaryOn world.disk) =
          (connections.map Connection.veiled).map (·.summaryOn world.disk) := by
        simp only [List.map_map, Function.comp_def, Connection.summaryOn_veiled]
      simp only [shape.summaryOn]
      rw [veils, lists, ← veils]
    refine LookAlike.bind (.of_looks (Looks.mapM (looks_summarize world) _)
      (Looks.mapM (looks_summarize world') _) told.symm) together ?_
    rintro summaries _ rfl
    exact .putView together presentation _

/-- Connections that are the same but for what their secrets are are shown alike. -/
theorem GoAlike.view (shape : world.disk.Alike seen world'.disk)
    (registries : LookAlike SameVeiled context.registry context'.registry world world')
    (together : Together alike start start' world world') (presentation : Presentation) (name : String) :
    GoAlike alike start start' (Command.runView context presentation name)
      (Command.runView context' presentation name) world world' := by
  refine registries.bind together fun registry registry' veiled => ?_
  refine (LookAlike.find veiled name).bind together fun connection connection' veiled => ?_
  -- From here on only the summary is used, and it is that of the veiled connection.
  have told : connection'.summaryOn world'.disk = connection.summaryOn world.disk := by
    rw [shape.summaryOn, ← Connection.summaryOn_veiled, veiled, Connection.summaryOn_veiled]
  refine LookAlike.bind (.of_looks (looks_summarize world connection) (looks_summarize world' connection')
    told.symm) together ?_
  rintro summary _ rfl
  exact .putView together presentation _

end Placard
