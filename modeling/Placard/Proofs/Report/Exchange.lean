import Placard.Proofs.Machine.Run
import Placard.Report

/-! The exchanges of a renderer with its fetcher: one for each connection, in order. -/

namespace Placard

/-- A question to a fetcher, with the answer. -/
structure Exchange where
  source : Source
  budget : Duration
  answer : Except SourceError String

namespace Renderer

/-- The same renderer, with every exchange of its fetcher written down behind those before. -/
def recorded {m : Type → Type} [Monad m] (renderer : Renderer m) :
    Renderer (StateT (List Exchange) m) where
  fetch source budget := do
    let answer ← StateT.lift (renderer.fetch source budget)
    modify (· ++ [⟨source, budget, answer⟩])
    return answer
  budget := renderer.budget
  note := renderer.note

variable {σ : Type} [Machine (StateM σ)]

/-- Connections visited in order: one exchange and one resolution for each.

Every visit starts in the state that the one before left, whatever came of that one. -/
inductive Visits (renderer : Renderer (StateM σ)) :
    List Connection → σ → List TagResolution → List Exchange → σ → Prop
  | none (state : σ) : Visits renderer [] state [] [] state
  | next {connection : Connection} {others : List Connection} {state found left final : σ}
      {source : Source} {answer : Except SourceError String} {resolution : Resolution}
      {tags : List TagResolution} {log : List Exchange}
      (detected : (connection.source : StateM σ Source).run state = (source, found))
      (answered : (renderer.fetch source renderer.budget).run found = (answer, left))
      (resolved : (connection.resolve renderer.fetch renderer.budget).run state = (resolution, left))
      (rest : Visits renderer others left tags log final) :
      Visits renderer (connection :: others) state
        (⟨connection.name, connection.tag, resolution⟩ :: tags)
        (⟨source, renderer.budget, answer⟩ :: log) final

/-- Looking for the source of a connection writes nothing down. -/
private theorem source_recorded (connection : Connection) (log : List Exchange) (state : σ) :
    ((connection.source : StateT (List Exchange) (StateM σ) Source).run log).run state =
      ((((connection.source : StateM σ Source).run state).1, log),
        ((connection.source : StateM σ Source).run state).2) := rfl

/-- A connection is resolved by one exchange, which is written down behind those before. -/
theorem resolveTag_run (renderer : Renderer (StateM σ)) (connection : Connection)
    {state found left : σ} {source : Source} {answer : Except SourceError String}
    (detected : (connection.source : StateM σ Source).run state = (source, found))
    (answered : (renderer.fetch source renderer.budget).run found = (answer, left)) :
    ∃ resolution,
      (connection.resolve renderer.fetch renderer.budget).run state = (resolution, left) ∧
      ∀ log, ((renderer.recorded.resolveTag connection).run log).run state =
        ((⟨connection.name, connection.tag, resolution⟩,
          log ++ [⟨source, renderer.budget, answer⟩]), left) := by
  -- An error ends the work on this connection; a body still goes through the extraction.
  cases answer with
  | error error =>
    refine ⟨.fetchFailed error, ?_, fun log => ?_⟩
    · simp [Connection.resolve, Connection.inspect, detected, answered]
    · simp [Connection.resolve, Connection.inspect, resolveTag, source_recorded, recorded,
        detected, answered]
  | ok body =>
    refine ⟨.ofExtraction (extract body connection.grammar connection.selector), ?_, fun log => ?_⟩
    · simp [Connection.resolve, Connection.inspect, detected, answered]
    · simp [Connection.resolve, Connection.inspect, resolveTag, source_recorded, recorded,
        detected, answered]

/-- Resolving connections in order visits each of them, and writes their exchanges down. -/
theorem mapM_resolveTag_visits (renderer : Renderer (StateM σ)) (connections : List Connection) :
    ∀ (before : List Exchange) (start : σ), ∃ tags log final,
      Visits renderer connections start tags log final ∧
      ((connections.mapM renderer.recorded.resolveTag).run before).run start =
        ((tags, before ++ log), final) := by
  -- The first visit always comes back with a resolution, so the others follow it.
  induction connections with
  | nil => exact fun before start => ⟨[], [], start, .none start, by simp⟩
  | cons connection others ih =>
    intro before start
    obtain ⟨source, found, detected⟩ : ∃ source found,
        (connection.source : StateM σ Source).run start = (source, found) := ⟨_, _, rfl⟩
    obtain ⟨answer, left, answered⟩ : ∃ answer left,
        (renderer.fetch source renderer.budget).run found = (answer, left) := ⟨_, _, rfl⟩
    obtain ⟨resolution, resolved, written⟩ := resolveTag_run renderer connection detected answered
    obtain ⟨tags, log, final, rest, ran⟩ := ih (before ++ [⟨source, renderer.budget, answer⟩]) left
    refine ⟨_, _, final, .next detected answered resolved rest, ?_⟩
    rw [List.mapM_cons]
    simp [written, ran]

/-- Writing exchanges down changes neither what visits give nor where they end. -/
theorem Visits.mapM_resolveTag {renderer : Renderer (StateM σ)} {connections : List Connection}
    {start final : σ} {tags : List TagResolution} {log : List Exchange}
    (visits : Visits renderer connections start tags log final) :
    (connections.mapM renderer.resolveTag).run start = (tags, final) := by
  induction visits with
  | none state => rfl
  | next detected answered resolved rest ih =>
    rw [List.mapM_cons]
    simp [resolveTag, resolved, ih]

/-- There are as many exchanges as connections. -/
theorem Visits.log_length {renderer : Renderer (StateM σ)} {connections : List Connection}
    {start final : σ} {tags : List TagResolution} {log : List Exchange}
    (visits : Visits renderer connections start tags log final) :
    log.length = connections.length := by
  induction visits with
  | none state => rfl
  | next _ _ _ _ ih => simp [ih]

/-- Every resolution stands under the name and the tag of its connection. -/
theorem Visits.tags_eq {renderer : Renderer (StateM σ)} {connections : List Connection}
    {start final : σ} {tags : List TagResolution} {log : List Exchange}
    (visits : Visits renderer connections start tags log final) :
    tags.map (fun tag => (tag.connection, tag.tag)) =
      connections.map fun connection => (connection.name, connection.tag) := by
  induction visits with
  | none state => rfl
  | next _ _ _ _ ih => simp [ih]

/-- Resolutions stand under the names of the connections that were visited, in their order. -/
theorem Visits.names_eq {renderer : Renderer (StateM σ)} {connections : List Connection}
    {start final : σ} {tags : List TagResolution} {log : List Exchange}
    (visits : Visits renderer connections start tags log final) :
    tags.map (·.connection) = connections.map (·.name) := by
  have names := congrArg (List.map Prod.fst) visits.tags_eq
  simpa [Function.comp_def] using names

/-- The table that visits give has the tags of the connections that were visited, in their order. -/
theorem Visits.keys_eq {renderer : Renderer (StateM σ)} {connections : List Connection}
    {start final : σ} {tags : List TagResolution} {log : List Exchange}
    (visits : Visits renderer connections start tags log final) :
    (tags.map fun tag => (tag.tag, tag.resolution.text)).map (·.1) = connections.map (·.tag) := by
  have keys := congrArg (List.map Prod.snd) visits.tags_eq
  simpa [Function.comp_def] using keys

/-- A report visits the connections that the filled text mentions, and writing this down changes nothing. -/
theorem report_visits (renderer : Renderer (StateM σ)) (template : String) (facts : Facts)
    (registry : Registry) (start : σ) : ∃ report log final,
      Visits renderer (registry.mentioned (facts.fill template)) start report.tags log final ∧
      ((renderer.recorded.report template facts registry).run []).run start = ((report, log), final) ∧
      (renderer.report template facts registry).run start = (report, final) := by
  obtain ⟨tags, log, final, visits, written⟩ :=
    mapM_resolveTag_visits renderer (registry.mentioned (facts.fill template)) [] start
  have note : renderer.recorded.note = renderer.note := rfl
  let text := Template.substitute (tags.map fun tag => (tag.tag, tag.resolution.text)) (facts.fill template)
  refine ⟨⟨Text.trimEnd (text ++ noteLine renderer.note), tags⟩, log, final, visits, ?_, ?_⟩
  · simp [report, text, written, note]
  · simp [report, text, visits.mapM_resolveTag]

/-- Every visit leaves the exchange with the source that its connection has by then. -/
theorem Visits.exchange {renderer : Renderer (StateM σ)} {before behind : List Connection}
    {connection : Connection} {start final : σ} {tags : List TagResolution} {log : List Exchange}
    (visits : Visits renderer (before ++ connection :: behind) start tags log final) :
    let turn := ((before.mapM renderer.resolveTag).run start).2
    let looked := (connection.source : StateM σ Source).run turn
    ⟨looked.1, renderer.budget, ((renderer.fetch looked.1 renderer.budget).run looked.2).1⟩ ∈ log := by
  intro turn looked
  -- The visits before end in the state in which this one begins.
  induction before generalizing start tags log with
  | nil =>
    cases visits with
    | next detected answered resolved rest =>
      have same : looked = _ := detected
      simp [same, answered]
  | cons first others ih =>
    cases visits with
    | next detected answered resolved rest =>
      refine List.mem_cons_of_mem _ ?_
      have later := ih rest
      simp only [turn, looked]
      rw [List.mapM_cons]
      simpa [resolveTag, resolved] using later

end Renderer

end Placard
