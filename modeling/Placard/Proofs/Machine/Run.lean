import Mathlib.Control.Traversable.Basic
import Placard.Machine.Basic

/-! Running actions from a state: what comes next starts where the one before ended. -/

namespace Placard

/-- Without effects of its own, an action hands its value straight on. -/
@[simp] theorem id_bind_eq {α β : Type} (value : Id α) (next : α → Id β) :
    (value >>= next) = next value := rfl

/-- Without effects of its own, changing what an action gives is applying the change. -/
@[simp] theorem id_map_eq {α β : Type} (change : α → β) (value : Id α) :
    (change <$> value) = change value := rfl

/-- Without effects of its own, an action that gives a value is the value. -/
@[simp] theorem id_pure_eq {α : Type} (value : α) : (pure value : Id α) = value := rfl

/-- From every state of which something holds, an action gives what it should, and leaves a state of which
it holds again. -/
def Preserves {σ α : Type} (holds : σ → Prop) (gives : α → Prop) (action : StateM σ α) : Prop :=
  ∀ state, holds state → gives (action.run state).1 ∧ holds (action.run state).2

namespace Preserves

variable {σ α β : Type} {holds : σ → Prop} {gives : α → Prop} {after : β → Prop}

/-- Giving a value preserves everything. -/
theorem pure {value : α} (given : gives value) : Preserves holds gives (Pure.pure value) :=
  fun _ held => ⟨given, held⟩

/-- Of two actions, the second one begins with what the first one gave. -/
theorem bind {action : StateM σ α} {next : α → StateM σ β} (first : Preserves holds gives action)
    (second : ∀ value, gives value → Preserves holds after (next value)) :
    Preserves holds after (action >>= next) := by
  intro state held
  obtain ⟨given, left⟩ := first state held
  exact second _ given _ left

/-- An action for each element of a list preserves what each of them preserves. -/
theorem mapM {action : α → StateM σ β} {items : List α}
    (each : ∀ item ∈ items, Preserves holds (fun _ => True) (action item)) :
    Preserves holds (fun _ => True) (items.mapM action) := by
  induction items with
  | nil => exact .pure trivial
  | cons item others ih =>
    rw [List.mapM_cons]
    refine (each item List.mem_cons_self).bind fun value _ => ?_
    exact (ih fun other member => each other (List.mem_cons_of_mem _ member)).bind fun _ _ => .pure trivial

end Preserves

end Placard
