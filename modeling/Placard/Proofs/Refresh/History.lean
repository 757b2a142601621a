import Mathlib.Data.List.Induction
import Placard.Proofs.Refresh.Recorded

/-! Renders and replacements in any order: each render sees the registry that was published last. -/

namespace Placard

namespace Refresh

/-- Performs steps in order, and gathers the outcomes of the renders. -/
def performAll {m : Type → Type} [Monad m] [Machine m] (refresh : Refresh m) (steps : List Step)
    (shared : Shared) : m (List Outcome × Shared) :=
  steps.foldlM (fun (outcomes, shared) step => do
    let (outcome, shared) ← refresh.perform shared step
    return (outcomes ++ outcome.toList, shared)) ([], shared)

/-- What steps have led to, with all that was asked on the way. -/
structure History (σ : Type) where
  outcomes : List Outcome
  shared : Shared
  events : List Event
  state : σ

/-- What reading the connections anew gave, time after time. -/
def History.answers {σ : Type} (history : History σ) : List (Option Registry) :=
  history.events.filterMap Event.answer?

/-- What steps published, in order: each replacement, and what was read anew for each render. -/
def publications : List Step → List (Option Registry) → List Registry
  | [], _ => []
  | .replace registry :: steps, answers => registry :: publications steps answers
  | .render :: steps, answers => (answers.headD none).toList ++ publications steps answers.tail

/-- The registry that was published last, if not the one from the beginning. -/
def latest (initial : Registry) (steps : List Step) (answers : List (Option Registry)) : Registry :=
  (publications steps answers).getLastD initial

/-- A replacement is published behind all others. -/
theorem publications_replace (steps : List Step) (registry : Registry) :
    ∀ answers, publications (steps ++ [.replace registry]) answers =
      publications steps answers ++ [registry] := by
  induction steps with
  | nil => exact fun answers => rfl
  | cons step steps ih =>
    intro answers
    cases step <;> simp [publications, ih]

/-- What is read anew for a render is published behind all others. -/
theorem publications_render (steps : List Step) (answer : Option Registry) :
    ∀ answers, answers.length = steps.count .render →
      publications (steps ++ [.render]) (answers ++ [answer]) =
        publications steps answers ++ answer.toList := by
  -- Each render before it has taken one of the answers.
  induction steps with
  | nil =>
    intro answers aligned
    obtain rfl := List.length_eq_zero_iff.mp aligned
    simp [publications]
  | cons step steps ih =>
    intro answers aligned
    cases step with
    | replace registry =>
      rw [List.count_cons_of_ne (by simp)] at aligned
      simp [publications, ih answers aligned]
    | render =>
      rw [List.count_cons_self] at aligned
      obtain ⟨first, others, rfl⟩ := List.exists_cons_of_length_eq_add_one aligned
      have rest := ih others (by simpa using aligned)
      simp [publications, rest]

/-- A render for which nothing is read anew publishes nothing. -/
theorem publications_render_nil (steps : List Step) :
    publications (steps ++ [.render]) [] = publications steps [] := by
  induction steps with
  | nil => rfl
  | cons step steps ih => cases step <;> simp [publications, ih]

/-- The answer to the last render counts before all that was published earlier. -/
theorem latest_render (initial : Registry) {steps : List Step} {answers : List (Option Registry)}
    (aligned : answers.length = steps.count .render) (answer : Option Registry) :
    latest initial (steps ++ [.render]) (answers ++ [answer]) =
      answer.getD (latest initial steps answers) := by
  rw [latest, publications_render steps answer answers aligned]
  cases answer <;> simp [latest]

/-- The last step is performed on what the steps before it have led to. -/
theorem performAll_concat {m : Type → Type} [Monad m] [LawfulMonad m] [Machine m] (refresh : Refresh m)
    (steps : List Step) (step : Step) (shared : Shared) :
    refresh.performAll (steps ++ [step]) shared = (do
      let (outcomes, reached) ← refresh.performAll steps shared
      let (outcome, next) ← refresh.perform reached step
      return (outcomes ++ outcome.toList, next)) := by
  simp [performAll, List.foldlM_append]

variable {σ : Type} [Machine (StateM σ)] (refresh : Refresh (StateM σ))

/-- What steps lead to from a registry, when all that is asked on the way is recorded. -/
def history (initial : Registry) (start : σ) (steps : List Step) : History σ :=
  let ran := ((refresh.recorded.performAll steps (.ofRegistry initial)).run []).run start
  ⟨ran.1.1.1, ran.1.1.2, ran.1.2, ran.2⟩

/-- The last step adds its outcome and its events, and leaves its own state. -/
theorem history_concat (initial : Registry) (start : σ) (steps : List Step) (step : Step)
    {events : List Event} :
    let past := refresh.history initial start steps
    Writes (refresh.recorded.perform past.shared step) (refresh.perform past.shared step) past.state events →
    let ran := (refresh.perform past.shared step).run past.state
    refresh.history initial start (steps ++ [step]) =
      ⟨past.outcomes ++ ran.1.1.toList, ran.1.2, past.events ++ events, ran.2⟩ := by
  intro past written
  have last := written past.events
  simp only [past, history] at last ⊢
  simp [performAll_concat, last]

/-- A replacement changes what is shared and nothing else. -/
theorem history_replace (initial : Registry) (start : σ) (steps : List Step) (registry : Registry) :
    let past := refresh.history initial start steps
    refresh.history initial start (steps ++ [.replace registry]) =
      ⟨past.outcomes, past.shared.replace registry, past.events, past.state⟩ := by
  intro past
  have concat := refresh.history_concat initial start steps (.replace registry) (.pure _ _)
  simpa [perform] using concat

/-- A render adds its outcome, and shares what was read anew for it. -/
theorem history_render (initial : Registry) (start : σ) (steps : List Step) :
    let past := refresh.history initial start steps
    let consulted := refresh.consult.run past.state
    let filled := (refresh.fill (consulted.1.getD past.shared.current)).run consulted.2
    let finished := (Machine.now : StateM σ Duration).run filled.2
    ∃ (facts : Facts) (exchanges : List Exchange),
      refresh.history initial start (steps ++ [.render]) =
        ⟨past.outcomes ++ [⟨filled.1, finished.1⟩], past.shared.renew consulted.1,
          past.events ++ (refresh.consultation consulted.1 ++ .gathered facts :: exchanges.map .asked),
          finished.2⟩ := by
  intro past consulted filled finished
  obtain ⟨facts, exchanges, written⟩ := refresh.renderOnce_writes past.shared past.state
  have concat := refresh.history_concat initial start steps .render (written.bind_quiet (.pure _ _))
  have rendered := refresh.renderOnce_run past.shared past.state
  refine ⟨facts, exchanges, concat.trans ?_⟩
  simp [perform, rendered, past, consulted, filled, finished]

/-- Recording what is asked changes nothing about it. -/
theorem history_plain (initial : Registry) (start : σ) (steps : List Step) :
    let past := refresh.history initial start steps
    (refresh.performAll steps (.ofRegistry initial)).run start =
      ((past.outcomes, past.shared), past.state) := by
  induction steps using List.reverseRecOn with
  | nil => rfl
  | append_singleton steps step ih =>
    simp only at ih ⊢
    cases step with
    | replace registry =>
      simp [performAll_concat, ih, history_replace, perform]
    | render =>
      obtain ⟨facts, exchanges, rendered⟩ := refresh.history_render initial start steps
      rw [rendered]
      simp [performAll_concat, ih, perform, renderOnce_run]

/-- A render adds one answer about the connections, where they are read anew. -/
theorem history_render_answers (initial : Registry) (start : σ) (steps : List Step) :
    let past := refresh.history initial start steps
    (refresh.history initial start (steps ++ [.render])).answers =
      past.answers ++ if refresh.reload.isSome then [(refresh.consult.run past.state).1] else [] := by
  intro past
  obtain ⟨facts, exchanges, rendered⟩ := refresh.history_render initial start steps
  rw [rendered]
  unfold History.answers consultation
  -- Neither the facts nor the sources tell anything about the connections.
  cases refresh.reload <;> simp [Event.answer?, past]

/-- The connections are read anew once for each render, where there is a way to. -/
theorem history_answers (initial : Registry) (start : σ) (steps : List Step) :
    (refresh.history initial start steps).answers.length =
      if refresh.reload.isSome then steps.count .render else 0 := by
  induction steps using List.reverseRecOn with
  | nil => simp [history, performAll, History.answers]
  | append_singleton steps step ih =>
    cases step with
    | replace registry =>
      have other : [Step.replace registry].count .render = 0 := by simp
      simpa [history_replace, History.answers, other] using ih
    | render =>
      rw [history_render_answers, List.length_append, ih]
      cases refresh.reload <;> simp

/-- What is shared is the registry that was published last. -/
theorem history_latest (initial : Registry) (start : σ) (steps : List Step) :
    let past := refresh.history initial start steps
    past.shared.current = latest initial steps past.answers := by
  induction steps using List.reverseRecOn with
  | nil => rfl
  | append_singleton steps step ih =>
    simp only at ih ⊢
    cases step with
    | replace registry =>
      simp [history_replace, latest, publications_replace]
    | render =>
      obtain ⟨facts, exchanges, rendered⟩ := refresh.history_render initial start steps
      have aligned := refresh.history_answers initial start steps
      rw [history_render_answers, rendered, Shared.renew_current, ih]
      cases given : refresh.reload with
      | none =>
        -- Nothing was ever read anew, so there are no answers.
        have nothing := List.length_eq_zero_iff.mp (by simpa [given] using aligned)
        simp [nothing, consult, given, latest, publications_render_nil]
      | some reload =>
        simpa using (latest_render initial (by simpa [given] using aligned) _).symm

/-- Later steps add outcomes behind those that there are, and leave all snapshots as they are. -/
theorem history_extends (initial : Registry) (start : σ) (before after : List Step) :
    let past := refresh.history initial start before
    let whole := refresh.history initial start (before ++ after)
    past.outcomes <+: whole.outcomes ∧ past.shared.Keeps whole.shared := by
  induction after using List.reverseRecOn with
  | nil => simp [Shared.Keeps.refl]
  | append_singleton after step ih =>
    obtain ⟨prefixed, kept⟩ := ih
    rw [← List.append_assoc]
    cases step with
    | replace registry =>
      rw [history_replace]
      exact ⟨prefixed, kept.trans (Shared.keeps_replace _ registry)⟩
    | render =>
      obtain ⟨facts, exchanges, rendered⟩ := refresh.history_render initial start (before ++ after)
      rw [rendered]
      exact ⟨prefixed.trans (List.prefix_append _ _), kept.trans (Shared.keeps_renew _ _)⟩

/-- Renders and replacements in any order, from any registry, however the connections are read anew.

They are read anew once for each render, before all else that it asks for. What is shared is always what was
published last: the registry from the beginning, a replacement, or connections that could be read. A render fills
the template from it, and a snapshot goes on showing what was shared when it was taken. -/
theorem history_follows (initial : Registry) (start : σ) (before after : List Step) :
    let past := refresh.history initial start before
    let rendered := refresh.history initial start (before ++ [.render])
    let whole := refresh.history initial start (before ++ after)
    let consulted := refresh.consult.run past.state
    let registry := latest initial (before ++ [.render]) rendered.answers
    let filled := (refresh.fill registry).run consulted.2
    -- The record is that of the steps themselves.
    (refresh.performAll before (.ofRegistry initial)).run start =
        ((past.outcomes, past.shared), past.state) ∧
      past.answers.length = (if refresh.reload.isSome then before.count .render else 0) ∧
      past.shared.current = latest initial before past.answers ∧
      past.outcomes <+: whole.outcomes ∧
      whole.shared.read past.shared.snapshot = past.shared.current ∧
      -- One more render asks for the connections first, and then for what it needs to fill the template.
      (∃ (facts : Facts) (exchanges : List Exchange), rendered.events =
        past.events ++ refresh.consultation consulted.1 ++ .gathered facts :: exchanges.map .asked) ∧
      rendered.shared.current = consulted.1.getD past.shared.current ∧
      rendered.shared.current = registry ∧
      rendered.outcomes =
        past.outcomes ++ [⟨filled.1, ((Machine.now : StateM σ Duration).run filled.2).1⟩] := by
  intro past rendered whole consulted registry filled
  obtain ⟨prefixed, kept⟩ := refresh.history_extends initial start before after
  obtain ⟨facts, exchanges, same⟩ := refresh.history_render initial start before
  have current : rendered.shared.current = registry :=
    refresh.history_latest initial start (before ++ [.render])
  have renewed : rendered.shared.current = consulted.1.getD past.shared.current := by
    simp [rendered, same, past, consulted]
  refine ⟨refresh.history_plain initial start before, refresh.history_answers initial start before,
    refresh.history_latest initial start before, prefixed, ?snapshot, ⟨facts, exchanges, ?asked⟩,
    renewed, current, ?outcome⟩
  case snapshot =>
    rw [(kept past.shared.snapshot (Nat.le_refl _)).2, Shared.read_snapshot]
  case asked =>
    simp [rendered, same, past, consulted]
  case outcome =>
    simp only [filled, ← current, renewed]
    simp [rendered, same, past, consulted]

end Refresh

end Placard
