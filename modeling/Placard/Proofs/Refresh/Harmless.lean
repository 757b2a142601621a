import Placard.Proofs.Machine.Run
import Placard.Proofs.Registry.Shared
import Placard.Refresh.Job

/-! What reading single sources preserves, and reports, renders and whole jobs preserve with them. -/

namespace Placard

/-- Each connection of a registry can be asked for its text, and what holds of the machine holds again. -/
def Registry.Harmless (fetch : Fetch (StateM World)) (budget : Duration) (holds : World → Prop)
    (registry : Registry) : Prop :=
  ∀ connection ∈ registry.toList, Preserves holds (fun _ => True) (connection.inspect fetch budget)

variable {holds : World → Prop}

/-- Making a report on harmless connections preserves what asking them preserves. -/
theorem Registry.Harmless.report {registry : Registry} {renderer : Renderer (StateM World)}
    (harmless : registry.Harmless renderer.fetch renderer.budget holds) (template : String) (facts : Facts) :
    Preserves holds (fun _ => True) (renderer.report template facts registry) := by
  refine Preserves.bind (Preserves.mapM fun connection mentioned => ?_) fun _ _ => .pure trivial
  -- Only connections of the registry are resolved.
  have member : connection ∈ registry.toList := (List.mem_filter.mp mentioned).1
  have resolved : Preserves holds (fun _ => True) (connection.resolve renderer.fetch renderer.budget) :=
    (harmless connection member).bind fun _ _ => .pure trivial
  exact resolved.bind fun _ _ => .pure trivial

namespace Refresh

variable {refresh : Refresh (StateM World)}

/-- The registry that is shared is harmless to a refresh. -/
def Shares (refresh : Refresh (StateM World)) (holds : World → Prop) (shared : Shared) : Prop :=
  shared.current.Harmless refresh.renderer.fetch refresh.renderer.budget holds

/-- All that a refresh does besides reading sources is harmless: the waiting, the facts, and reading the
connections anew, which gives harmless ones. -/
structure Harmless (refresh : Refresh (StateM World)) (holds : World → Prop) : Prop where
  consult : Preserves holds
    (fun fresh => ∀ registry ∈ fresh,
      Registry.Harmless refresh.renderer.fetch refresh.renderer.budget holds registry) refresh.consult
  facts : Preserves holds (fun _ => True) refresh.facts
  pause : ∀ span, Preserves holds (fun _ => True) (Machine.pause span : StateM World Unit)

namespace Harmless

/-- One render preserves what holds, and what it shares is harmless again. -/
theorem renderOnce (harmless : refresh.Harmless holds) {shared : Shared} (safe : refresh.Shares holds shared) :
    Preserves holds (fun made => refresh.Shares holds made.2) (refresh.renderOnce shared) := by
  refine harmless.consult.bind fun fresh given => ?_
  -- Either the connections were read anew, or they are those from before.
  have renewed : refresh.Shares holds (shared.renew fresh) := by
    unfold Shares
    rw [Shared.renew_current]
    cases fresh with
    | none => exact safe
    | some registry => exact given registry rfl
  simp only [Shared.read_snapshot]
  have filled : Preserves holds (fun _ => True) (refresh.fill (shared.renew fresh).current) :=
    harmless.facts.bind fun facts _ => (renewed.report _ facts).bind fun _ _ => .pure trivial
  exact filled.bind fun text _ world held => ⟨renewed, held⟩

/-- What a job does next preserves what holds. -/
theorem proceed (harmless : refresh.Harmless holds) {job : Job} (safe : refresh.Shares holds job.shared) :
    Preserves holds (fun later => refresh.Shares holds later.shared) (refresh.proceed job) := by
  have clock : Preserves holds (fun _ => True) (Machine.now : StateM World Duration) :=
    fun world held => ⟨trivial, held⟩
  have rest : Preserves holds (fun _ => True) (job.rest : StateM World Unit) := by
    unfold Job.rest
    split
    · exact .pure trivial
    · split
      · exact .pure trivial
      · exact clock.bind fun now _ => harmless.pause _
  refine rest.bind fun _ _ => ?_
  -- A job that has ended, was cancelled or is early renders nothing.
  unfold turn
  split
  · exact .pure safe
  · split
    · exact .pure safe
    · refine clock.bind fun now _ => ?_
      simp only []
      split
      · exact .pure safe
      · refine (harmless.renderOnce safe).bind fun made held => .pure ?_
        unfold Job.publish
        split
        · exact held
        · exact held

/-- Waiting for an outcome preserves what holds. -/
theorem next (harmless : refresh.Harmless holds) {job : Job} (safe : refresh.Shares holds job.shared) :
    Preserves holds (fun found => refresh.Shares holds found.2.shared) (refresh.next job) := by
  unfold Refresh.next
  split
  · exact .pure safe
  · exact (harmless.proceed safe).bind fun later held => .pure held

/-- Rounds preserve what holds, when handing outcomes on does. -/
theorem rounds {α : Type} (harmless : refresh.Harmless holds) {hand : Outcome → StateM World (Option α)}
    (hands : ∀ outcome, Preserves holds (fun _ => True) (hand outcome)) (count : Nat) {job : Job}
    (safe : refresh.Shares holds job.shared) :
    Preserves holds (fun found => refresh.Shares holds found.2.shared) (refresh.rounds hand count job) := by
  -- Each round begins with the job that the round before has left.
  induction count generalizing job with
  | zero => exact .pure safe
  | succ more ih =>
    rw [Refresh.rounds]
    refine (harmless.next safe).bind fun found held => ?_
    obtain ⟨outcome, later⟩ := found
    cases outcome with
    | none => exact .pure held
    | some outcome =>
      refine (hands outcome).bind fun answer _ => ?_
      cases answer with
      | some answer => exact .pure held
      | none => exact ih held

end Harmless

end Refresh

end Placard
