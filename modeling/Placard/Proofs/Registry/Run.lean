import Placard.Proofs.Registry.Sound

/-! Every registry that operations lead to keeps its keys, names and places in step. -/

namespace Placard.Registry

/-- The operations on a registry. -/
inductive Action
  | add (connection : Connection)
  | update (name : String) (connection : Connection)
  | remove (name : String)
  | ofList (connections : List Connection)
  | parse (text : String)
  | fill (lookup : String → Option String)
  /-- Gives each connection the address that an edit makes of it; as names are distinct, an edit
  may tell any two places apart. -/
  | editUrls (edit : Connection → String)

/-- The registry that a result leaves: the new one, or the old one after an error. -/
def left {ε : Type} (registry : Registry) : Except ε Registry → Registry
  | .ok next => next
  | .error _ => registry

/-- The registry after an operation, whether it succeeds or is refused. -/
def perform (registry : Registry) : Action → Registry
  | .add connection => registry.left (registry.add connection)
  | .update name connection => registry.left (registry.update name connection)
  | .remove name => registry.left ((registry.remove name).map (·.2))
  | .ofList connections => .ofList connections
  | .parse text => registry.left (Registry.parse text)
  | .fill lookup => (registry.fill lookup).1
  | .editUrls edit => registry.mapConnections fun connection =>
      { connection with url := edit connection }

/-- The registry that operations make of the empty one, one after another. -/
def run (actions : List Action) : Registry :=
  actions.foldl perform empty

/-- A result leaves a sound registry when its success does. -/
theorem Sound.left {ε : Type} {registry : Registry} (sound : registry.Sound)
    {result : Except ε Registry} (kept : ∀ next, result = .ok next → next.Sound) :
    (registry.left result).Sound := by
  cases result with
  | error error => exact sound
  | ok next => exact kept next rfl

/-- One operation keeps the invariant, whether it succeeds or is refused. -/
theorem perform_sound {registry : Registry} (sound : registry.Sound) (action : Action) :
    (registry.perform action).Sound := by
  cases action with
  | add connection => exact sound.left fun _ added => sound.add added
  | update name connection => exact sound.left fun _ updated => sound.update updated
  | remove name =>
    refine sound.left fun next taken => ?_
    cases removed : registry.remove name with
    | error error => simp [removed, Except.map] at taken
    | ok result =>
      simp only [removed, Except.map, Except.ok.injEq] at taken
      exact sound.remove (removed.trans (congrArg _ (Prod.ext rfl taken)))
  | ofList connections => exact ofList_sound connections
  | parse text => exact sound.left fun _ read => parse_sound read
  | fill lookup => exact sound.fill lookup
  | editUrls edit =>
    unfold perform
    refine sound.mapConnections fun connection => ?_
    rfl

/-- Any number of operations keep the invariant. -/
theorem run_sound (actions : List Action) : (run actions).Sound := by
  -- The registry before each operation is sound, so the one after it is.
  have general : ∀ registry : Registry, registry.Sound → (actions.foldl perform registry).Sound := by
    induction actions with
    | nil => exact fun registry sound => sound
    | cons action others ih => exact fun registry sound => ih _ (perform_sound sound action)
  exact general empty empty_sound

/-- In every registry that operations lead to, keys, names and looking up agree.

Each entry's key is the name in its record, no name is blank or used twice, and looking a name up
finds the one record of that name among those in order. -/
theorem run_consistent (actions : List Action) :
    (∀ entry ∈ (run actions).entries, entry.1 = entry.2.name) ∧
      ((run actions).toList.map (·.name)).Nodup ∧
      (∀ connection ∈ (run actions).toList, ∃ c ∈ connection.name.toList, Text.isBlank c = false) ∧
      (run actions).size = (run actions).toList.length ∧
      ∀ name,
        (((run actions).get? name).isSome ↔
          ∃ connection ∈ (run actions).toList, connection.name = name) ∧
        ∀ connection, (run actions).get? name = some connection ↔
          connection ∈ (run actions).toList ∧ connection.name = name := by
  have sound := run_sound actions
  refine ⟨sound.keyed, sound.distinct, fun connection member => ?_, by simp [size, toList],
    fun name => ⟨?_, fun connection => sound.get?_eq_some_iff⟩⟩
  · simpa [Text.allBlank] using sound.named connection member
  · simp only [Option.isSome_iff_exists, sound.get?_eq_some_iff]

end Placard.Registry
