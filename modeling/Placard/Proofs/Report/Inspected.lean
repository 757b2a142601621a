import Placard.Proofs.Except
import Placard.Proofs.Machine.Run
import Placard.Proofs.Text.Blank
import Placard.Report

/-! One connection by itself: its source is asked once, and its value is taken out of the answer. -/

namespace Placard

/-- A value that is taken out of a body does not end in blanks. -/
theorem trimEnd_extract {body selector value : String} {grammar : Grammar}
    (extracted : extract body grammar selector = .ok value) : Text.trimEnd value = value := by
  -- Whatever is found in the body, it is trimmed in the end.
  have trims {found : Except ExtractionError String}
      (ended : (do return Text.trim (← found)) = .ok value) : ∃ text, value = Text.trim text := by
    obtain ⟨text, -, same⟩ := bind_eq_ok_iff.mp ended
    exact ⟨text, (Except.ok.inj same).symm⟩
  obtain ⟨text, rfl⟩ : ∃ text, value = Text.trim text := by
    unfold extract at extracted
    simp only [] at extracted
    split at extracted
    · exact trims extracted
    · split at extracted
      · exact trims extracted
      · exact trims extracted
  rw [Text.trimEnd, Text.trim, String.toList_ofList, Text.inner, Text.cutBlanks_cutBlanks]

/-- What is seen of a connection whose source gave an answer. -/
def Connection.inspection (connection : Connection) (kind : SourceKind) :
    Except SourceError String → Inspection
  | .error error => ⟨kind, none, .fetchFailed error⟩
  | .ok body => ⟨kind, some body, .ofExtraction (extract body connection.grammar connection.selector)⟩

/-- The text that stands for an inspected connection does not end in blanks. -/
theorem Connection.trimEnd_inspection (connection : Connection) (kind : SourceKind)
    (answer : Except SourceError String) :
    Text.trimEnd (connection.inspection kind answer).resolution.text =
      (connection.inspection kind answer).resolution.text := by
  -- The marks for failures end in a bracket.
  cases answer with
  | error error => exact (by decide : Text.trimEnd "(error)" = "(error)")
  | ok body =>
    rw [inspection]
    cases extracted : extract body connection.grammar connection.selector with
    | ok value => exact trimEnd_extract extracted
    | error error =>
      cases error with
      | badJson body fault => exact (by decide : Text.trimEnd "(json path error)" = "(json path error)")
      | badPattern error => exact (by decide : Text.trimEnd "(regex error)" = "(regex error)")
      | noMatch => exact (by decide : Text.trimEnd "(no match)" = "(no match)")

/-- Looking for the source of a connection leaves the machine as it was. -/
theorem Connection.source_run (connection : Connection) (world : World) :
    (connection.source : StateM World Source).run world =
      (((connection.source : StateM World Source).run world).1, world) := rfl

/-- Inspecting a connection is asking its source once. -/
theorem Connection.inspect_run (fetch : Fetch (StateM World)) (budget : Duration) (connection : Connection)
    (world : World) :
    (connection.inspect fetch budget).run world =
      (connection.inspection ((connection.source : StateM World Source).run world).1.kind
          ((fetch ((connection.source : StateM World Source).run world).1 budget).run world).1,
        ((fetch ((connection.source : StateM World Source).run world).1 budget).run world).2) := by
  rw [inspect, StateT.run_bind, source_run, id_bind_eq]
  simp only [StateT.run_bind, id_bind_eq]
  cases ((fetch ((connection.source : StateM World Source).run world).1 budget).run world).1 with
  | error error => rfl
  | ok body => rfl

/-- The text of a connection that was inspected does not end in blanks. -/
theorem Connection.trimEnd_inspect (fetch : Fetch (StateM World)) (budget : Duration)
    (connection : Connection) (world : World) :
    Text.trimEnd ((connection.inspect fetch budget).run world).1.resolution.text =
      ((connection.inspect fetch budget).run world).1.resolution.text := by
  rw [inspect_run]
  exact trimEnd_inspection ..

/-- A connection has the same source on two machines, and gets the same answer from it. -/
def AnsweredAlike (fetch : Fetch (StateM World)) (budget : Duration) (connection : Connection)
    (world other : World) : Prop :=
  ∃ source answer,
    ((connection.source : StateM World Source).run world).1 = source ∧
    ((connection.source : StateM World Source).run other).1 = source ∧
    ((fetch source budget).run world).1 = answer ∧ ((fetch source budget).run other).1 = answer

/-- Where a connection is answered alike, the same is seen of it. -/
theorem AnsweredAlike.inspect {fetch : Fetch (StateM World)} {budget : Duration} {connection : Connection}
    {world other : World} (alike : AnsweredAlike fetch budget connection world other) :
    ((connection.inspect fetch budget).run other).1 = ((connection.inspect fetch budget).run world).1 := by
  obtain ⟨source, answer, here, there, answered, again⟩ := alike
  rw [Connection.inspect_run, Connection.inspect_run, here, there, answered, again]

end Placard
