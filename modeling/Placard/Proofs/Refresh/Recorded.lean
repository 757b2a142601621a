import Placard.Proofs.Registry.Shared
import Placard.Proofs.Report.Exchange
import Placard.Refresh

/-! What a refresh asks of its surroundings, written down while it runs. -/

namespace Placard

/-- A question of a refresh to its surroundings, with the answer. -/
inductive Event
  | consulted (answer : Option Registry)
  | gathered (facts : Facts)
  | asked (exchange : Exchange)

namespace Event

/-- What reading the connections anew gave, if that is what was done. -/
def answer? : Event → Option (Option Registry)
  | consulted answer => some answer
  | gathered _ => none
  | asked _ => none

/-- An action, with an event written down behind those before it. -/
def noting {m : Type → Type} [Monad m] {α : Type} (event : α → Event) (action : m α) :
    StateT (List Event) m α := do
  let value ← StateT.lift action
  modify (· ++ [event value])
  return value

end Event

namespace Refresh

/-- The same refresh, with all that it asks of its surroundings written down in order. -/
def recorded {m : Type → Type} [Monad m] (refresh : Refresh m) : Refresh (StateT (List Event) m) where
  renderer :=
    { fetch := fun source budget =>
        Event.noting (fun answer => .asked ⟨source, budget, answer⟩) (refresh.renderer.fetch source budget)
      budget := refresh.renderer.budget
      note := refresh.renderer.note }
  template := refresh.template
  interval := refresh.interval
  facts := Event.noting .gathered refresh.facts
  reload := refresh.reload.map (Event.noting .consulted)

/-- What reading the connections anew leaves in the record: one event, where there is a way to. -/
def consultation {m : Type → Type} (refresh : Refresh m) (answer : Option Registry) : List Event :=
  if refresh.reload.isSome then [.consulted answer] else []

end Refresh

variable {σ : Type}

/-- From a state, one action does what another one does, and writes events down besides. -/
def Writes {α : Type} (written : StateT (List Event) (StateM σ) α) (plain : StateM σ α) (start : σ)
    (events : List Event) : Prop :=
  ∀ log, (written.run log).run start =
    (((plain.run start).1, log ++ events), (plain.run start).2)

namespace Writes

/-- A value that is only handed on leaves nothing in the record. -/
theorem pure {α : Type} (value : α) (start : σ) :
    Writes (Pure.pure value) (Pure.pure value) start [] := fun log => by simp

/-- An action that is not recorded leaves nothing in the record. -/
theorem lift {α : Type} (action : StateM σ α) (start : σ) :
    Writes (StateT.lift action) action start [] := fun log => by simp

/-- A noted action leaves its event in the record. -/
theorem noting {α : Type} (event : α → Event) (action : StateM σ α) (start : σ) :
    Writes (Event.noting event action) action start [event (action.run start).1] := by
  intro log
  simp [Event.noting]

/-- Of two actions in a row, the second writes behind the first. -/
theorem bind {α β : Type} {written : StateT (List Event) (StateM σ) α} {plain : StateM σ α}
    {writtenNext : α → StateT (List Event) (StateM σ) β} {plainNext : α → StateM σ β} {start : σ}
    {first second : List Event} (here : Writes written plain start first)
    (behind : Writes (writtenNext (plain.run start).1) (plainNext (plain.run start).1)
      (plain.run start).2 second) :
    Writes (written >>= writtenNext) (plain >>= plainNext) start (first ++ second) := by
  intro log
  simp [here log, behind (log ++ first), List.append_assoc]

/-- Where the second of two actions leaves nothing in the record, it holds what the first one left. -/
theorem bind_quiet {α β : Type} {written : StateT (List Event) (StateM σ) α} {plain : StateM σ α}
    {writtenNext : α → StateT (List Event) (StateM σ) β} {plainNext : α → StateM σ β} {start : σ}
    {events : List Event} (here : Writes written plain start events)
    (behind : Writes (writtenNext (plain.run start).1) (plainNext (plain.run start).1)
      (plain.run start).2 []) :
    Writes (written >>= writtenNext) (plain >>= plainNext) start events := by
  have both := here.bind behind
  rwa [List.append_nil] at both

end Writes

namespace Refresh

variable [Machine (StateM σ)] (refresh : Refresh (StateM σ))

/-- One connection is resolved with one exchange. -/
theorem resolveTag_writes (connection : Connection) (start : σ) : ∃ exchange,
    Writes (refresh.recorded.renderer.resolveTag connection) (refresh.renderer.resolveTag connection)
      start [.asked exchange] := by
  obtain ⟨source, found, detected⟩ : ∃ source found,
      (connection.source : StateM σ Source).run start = (source, found) := ⟨_, _, rfl⟩
  refine ⟨⟨source, refresh.renderer.budget,
    ((refresh.renderer.fetch source refresh.renderer.budget).run found).1⟩, ?_⟩
  -- Looking for the source is not recorded, and behind the answer nothing is asked.
  have looked : Writes (connection.source : StateT (List Event) (StateM σ) Source)
      (connection.source : StateM σ Source) start [] := by
    intro log
    rw [List.append_nil]
    rfl
  refine Writes.bind_quiet (Writes.bind_quiet (looked.bind ?_) (.pure _ _)) (.pure _ _)
  rw [detected]
  refine (Writes.noting _ _ found).bind_quiet ?_
  split
  · exact .pure _ _
  · exact .pure _ _

/-- Connections in order are resolved with one exchange for each. -/
theorem mapM_resolveTag_writes (connections : List Connection) :
    ∀ start : σ, ∃ exchanges : List Exchange, Writes (connections.mapM refresh.recorded.renderer.resolveTag)
      (connections.mapM refresh.renderer.resolveTag) start (exchanges.map .asked) := by
  induction connections with
  | nil => exact fun start => ⟨[], .pure [] start⟩
  | cons connection others ih =>
    intro start
    obtain ⟨exchange, here⟩ := refresh.resolveTag_writes connection start
    obtain ⟨exchanges, behind⟩ := ih ((refresh.renderer.resolveTag connection).run start).2
    refine ⟨exchange :: exchanges, ?_⟩
    rw [List.mapM_cons, List.mapM_cons]
    exact here.bind (behind.bind_quiet (.pure _ _))

/-- Filling the template asks for the facts, then for the sources that it needs. -/
theorem fill_writes (registry : Registry) (start : σ) : ∃ exchanges : List Exchange,
    Writes (refresh.recorded.fill registry) (refresh.fill registry) start
      (.gathered (refresh.facts.run start).1 :: exchanges.map .asked) := by
  have gathered := Writes.noting Event.gathered refresh.facts start
  obtain ⟨exchanges, resolved⟩ := refresh.mapM_resolveTag_writes
    (registry.mentioned ((refresh.facts.run start).1.fill refresh.template)) (refresh.facts.run start).2
  -- The text is put together from what was resolved, and nothing more is asked.
  have reported : Writes
      (refresh.recorded.renderer.report refresh.template (refresh.facts.run start).1 registry)
      (refresh.renderer.report refresh.template (refresh.facts.run start).1 registry)
      (refresh.facts.run start).2 (exchanges.map .asked) := resolved.bind_quiet (.pure _ _)
  exact ⟨exchanges, gathered.bind (reported.bind_quiet (.pure _ _))⟩

omit [Machine (StateM σ)] in
/-- Reading the connections anew leaves one event in the record, where there is a way to. -/
theorem consult_writes (start : σ) :
    Writes refresh.recorded.consult refresh.consult start
      (refresh.consultation (refresh.consult.run start).1) := by
  unfold consult consultation recorded
  cases refresh.reload with
  | none => exact .pure none start
  | some reload => exact .noting .consulted reload start

/-- A render reads the connections anew, fills the template from what is shared, and looks at the clock. -/
theorem renderOnce_run (shared : Shared) (start : σ) :
    let consulted := refresh.consult.run start
    let filled := (refresh.fill (consulted.1.getD shared.current)).run consulted.2
    let finished := (Machine.now : StateM σ Duration).run filled.2
    (refresh.renderOnce shared).run start =
      ((⟨filled.1, finished.1⟩, shared.renew consulted.1), finished.2) := by
  simp [renderOnce]

/-- A render reads the connections anew first and once, and then fills the template. -/
theorem renderOnce_writes (shared : Shared) (start : σ) : ∃ (facts : Facts) (exchanges : List Exchange),
    Writes (refresh.recorded.renderOnce shared) (refresh.renderOnce shared) start
      (refresh.consultation (refresh.consult.run start).1 ++ .gathered facts :: exchanges.map .asked) := by
  obtain ⟨exchanges, filled⟩ := refresh.fill_writes
    ((shared.renew (refresh.consult.run start).1).read (shared.renew (refresh.consult.run start).1).snapshot)
    (refresh.consult.run start).2
  refine ⟨_, exchanges, (refresh.consult_writes start).bind (filled.bind_quiet ?_)⟩
  -- Looking at the clock is not recorded.
  exact (Writes.lift Machine.now _).bind_quiet (.pure _ _)

end Refresh

end Placard
