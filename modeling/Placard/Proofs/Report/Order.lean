import Placard.Proofs.Report.Filled
import Placard.Proofs.Report.Inspected

/-! A report depends neither on the order of the registry nor on connections that its text does not mention. -/

namespace Placard

namespace Registry

/-- A connection whose tag does not stand in a text may be added without being noticed in it. -/
theorem mentioned_add {registry next : Registry} {connection : Connection} {text : String}
    (added : registry.add connection = .ok next)
    (absent : ¬ connection.tag.toList <:+: text.toList) :
    next.mentioned text = registry.mentioned text := by
  -- It is put at the end of the list, and not chosen there.
  rw [add_eq] at added
  split at added
  · cases added
  · split at added
    · cases added
    · cases added
      simp [mentioned_eq, toList, absent]

/-- Taking out a connection that is not among the chosen ones leaves the chosen ones. -/
theorem filter_removeEntry {entries : List (String × Connection)} {name : String}
    {connection : Connection} {chosen : Connection → Bool}
    (found : entries.lookup name = some connection) (absent : chosen connection = false) :
    ((removeEntry name entries).map (·.2)).filter chosen = (entries.map (·.2)).filter chosen := by
  -- The first entry of the name is the one that is found and the one that is taken out.
  induction entries with
  | nil => rfl
  | cons entry others ih =>
    obtain ⟨key, filed⟩ := entry
    by_cases same : key = name
    · have taken : filed = connection := by simpa [List.lookup_cons, same] using found
      simp [removeEntry, same, taken, absent]
    · have passed : (name == key) = false := beq_false_of_ne (Ne.symm same)
      have rest := ih (by simpa [List.lookup_cons, passed] using found)
      simp only [removeEntry, if_neg same, List.map_cons, List.filter_cons, rest]

/-- A connection whose tag does not stand in a text may be removed without being noticed in it. -/
theorem mentioned_remove {registry next : Registry} {name : String} {connection : Connection}
    {text : String} (removed : registry.remove name = .ok (connection, next))
    (absent : ¬ connection.tag.toList <:+: text.toList) :
    next.mentioned text = registry.mentioned text := by
  unfold remove at removed
  split at removed
  · cases removed
  next found held =>
    obtain ⟨rfl, rfl⟩ := Prod.mk.inj (Except.ok.inj removed)
    rw [mentioned_eq, mentioned_eq]
    exact filter_removeEntry held (by simpa using absent)

end Registry

/-- Two machines on which the same paths lead to files. -/
def SamePlaces (world other : World) : Prop :=
  ∀ path, ((Machine.isFile path : StateM World Bool).run other).1 =
    ((Machine.isFile path : StateM World Bool).run world).1

/-- A location names the same source on two machines on which the same paths lead to files. -/
theorem SamePlaces.source {world other : World} (same : SamePlaces world other)
    (connection : Connection) :
    ((connection.source : StateM World Source).run other).1 =
      ((connection.source : StateM World Source).run world).1 := by
  -- Looking for a source is one look at its location.
  have looked (state : World) : ((connection.source : StateM World Source).run state).1 =
      .ofLocation ((Machine.isFile connection.url : StateM World Bool).run state).1 connection.url
        connection.method connection.credentials := rfl
  rw [looked, looked, same]

namespace Renderer

/-- A renderer whose answers depend on nothing but the source asked for.

Asking may have effects, but no file appears or vanishes by it: else a location would come to name
another source. -/
structure Steady (renderer : Renderer (StateM World)) : Prop where
  answers : ∀ source (world other : World),
    ((renderer.fetch source renderer.budget).run other).1 =
      ((renderer.fetch source renderer.budget).run world).1
  places : ∀ source (world : World),
    SamePlaces world ((renderer.fetch source renderer.budget).run world).2

/-- A renderer whose fetcher is a mere function of the source is steady. -/
theorem Steady.of_answers {renderer : Renderer (StateM World)}
    (answer : Source → Except SourceError String)
    (pure_ : ∀ source, renderer.fetch source renderer.budget = pure (answer source)) :
    renderer.Steady where
  answers source world other := by rw [pure_]; rfl
  places source world path := by rw [pure_]; rfl

/-- What becomes of a connection when it is resolved by itself. -/
def settled (renderer : Renderer (StateM World)) (world : World) (connection : Connection) :
    TagResolution :=
  ((renderer.resolveTag connection).run world).1

/-- The exchange for a connection when it is resolved by itself. -/
def asked (renderer : Renderer (StateM World)) (world : World) (connection : Connection) : Exchange :=
  let source := ((connection.source : StateM World Source).run world).1
  ⟨source, renderer.budget, ((renderer.fetch source renderer.budget).run world).1⟩

/-- Connections visited with a steady renderer are settled as each of them is by itself. -/
theorem Visits.eq_map {renderer : Renderer (StateM World)} (steady : renderer.Steady)
    {connections : List Connection} {start final : World} {tags : List TagResolution}
    {log : List Exchange} (visits : Visits renderer connections start tags log final) {world : World}
    (same : SamePlaces world start) :
    tags = connections.map (renderer.settled world) ∧ log = connections.map (renderer.asked world) := by
  induction visits with
  | none state => exact ⟨rfl, rfl⟩
  | @next connection others state found left final source answer resolution tags log detected answered
      resolved rest ih =>
    have source_eq : source = ((connection.source : StateM World Source).run world).1 := by
      rw [← same.source, detected]
    have answer_eq : answer = ((renderer.fetch source renderer.budget).run world).1 := by
      rw [← steady.answers source world found, answered]
    have alike : AnsweredAlike renderer.fetch renderer.budget connection world state :=
      ⟨source, answer, source_eq.symm, by rw [detected], answer_eq.symm,
        by rw [steady.answers source found state, answered]⟩
    have resolution_eq : resolution = ((connection.inspect renderer.fetch renderer.budget).run world).1.resolution := by
      rw [← alike.inspect]
      exact (congrArg Prod.fst resolved).symm
    -- Looking for the source changed nothing, and asking it moved no file.
    have kept : SamePlaces world left := by
      intro path
      have moved := steady.places source found path
      rw [answered] at moved
      rw [moved, ← same path]
      exact congrArg (fun state => ((Machine.isFile path : StateM World Bool).run state).1)
        (congrArg Prod.snd detected).symm
    obtain ⟨tags_eq, log_eq⟩ := ih kept
    constructor
    · rw [List.map_cons, ← tags_eq, resolution_eq]
      rfl
    · rw [List.map_cons, ← log_eq, asked, ← source_eq, ← answer_eq]

/-- A report depends on the registry only through the connections that the text mentions. -/
theorem report_congr {m : Type → Type} [Monad m] [Machine m] (renderer : Renderer m) (template : String)
    (facts : Facts) {registry other : Registry}
    (same : other.mentioned (facts.fill template) = registry.mentioned (facts.fill template)) :
    renderer.report template facts other = renderer.report template facts registry := by
  simp only [report, same]

/-- With a steady renderer a report is made of what becomes of each mentioned connection by itself. -/
theorem Steady.report_eq {renderer : Renderer (StateM World)} (steady : renderer.Steady)
    (template : String) (facts : Facts) (registry : Registry) (world : World) :
    let text := facts.fill template
    let tags := (registry.mentioned text).map (renderer.settled world)
    let table := tags.map fun tag => (tag.tag, tag.resolution.text)
    ((renderer.report template facts registry).run world).1 =
        ⟨Text.trimEnd (Template.substitute table text ++ noteLine renderer.note), tags⟩ ∧
      (((renderer.recorded.report template facts registry).run []).run world).1.2 =
        (registry.mentioned text).map (renderer.asked world) := by
  intro text tags table
  obtain ⟨found, log, final, visits, written⟩ :=
    mapM_resolveTag_visits renderer (registry.mentioned text) [] world
  obtain ⟨rfl, rfl⟩ := visits.eq_map steady fun path => rfl
  constructor
  · simp [report, text, tags, table, visits.mapM_resolveTag]
  · simp [report, text, written]

/-- Connections that a steady renderer settles give a table that substitution can follow. -/
theorem Steady.table_tokens {renderer : Renderer (StateM World)} (steady : renderer.Steady)
    (world : World) {connections : List Connection}
    (distinct : (connections.map (·.name)).Nodup) :
    let table := (connections.map (renderer.settled world)).map fun tag => (tag.tag, tag.resolution.text)
    (table.map (·.1)).Nodup ∧ Template.Braced (Template.tokensOf table) := by
  -- A run that visits the connections settles them as each is by itself.
  obtain ⟨tags, log, final, visits, -⟩ := mapM_resolveTag_visits renderer connections [] world
  obtain ⟨rfl, -⟩ := visits.eq_map steady fun path => rfl
  exact visits.table_tokens distinct

/-- The order of a registry decides in which order its connections are asked and reported, but not
what becomes of them, nor the text. Connections that the text does not mention decide nothing. -/
theorem report_order_free (renderer : Renderer (StateM World)) (template : String) (facts : Facts)
    (registry other : Registry) (sound : registry.Sound) (world : World) :
    let text := facts.fill template
    let mentioned (registry : Registry) := registry.toList.filter fun connection =>
      ("\x7bAPI:" ++ connection.name ++ "\x7d").toList <:+: text.toList
    let report (registry : Registry) := ((renderer.report template facts registry).run world).1
    let asked (registry : Registry) :=
      (((renderer.recorded.report template facts registry).run []).run world).1.2
    (renderer.Steady → other.toList.Perm registry.toList →
      (report other).text = (report registry).text ∧
      (report registry).tags = (mentioned registry).map (renderer.settled world) ∧
      (report other).tags = (mentioned other).map (renderer.settled world) ∧
      asked registry = (mentioned registry).map (renderer.asked world) ∧
      asked other = (mentioned other).map (renderer.asked world) ∧
      (mentioned other).Perm (mentioned registry)) ∧
    (mentioned other = mentioned registry →
      (report other).text = (report registry).text ∧
      (report other).tags = (report registry).tags ∧
      asked other = asked registry) := by
  intro text mentioned report asked
  -- The connections that a report resolves are those whose tag stands in the text.
  have chosen (registry : Registry) : registry.mentioned text = mentioned registry :=
    registry.mentioned_eq text
  refine ⟨fun steady permuted => ?_, fun same => ?_⟩
  · have names : ((registry.mentioned text).map (·.name)).Nodup :=
      sound.distinct.sublist (List.filter_sublist.map _)
    have among : (other.mentioned text).Perm (registry.mentioned text) := permuted.filter _
    obtain ⟨distinct, braced⟩ := steady.table_tokens world names
    obtain ⟨filled, logged⟩ := steady.report_eq template facts registry world
    obtain ⟨otherFilled, otherLogged⟩ := steady.report_eq template facts other world
    -- The two tables have the same entries, and substitution does not mind their order.
    have exchanged := Template.substitute_perm distinct braced ((among.map _).map _) text
    refine ⟨?_, chosen registry ▸ congrArg Report.tags filled,
      chosen other ▸ congrArg Report.tags otherFilled, chosen registry ▸ logged,
      chosen other ▸ otherLogged, chosen registry ▸ chosen other ▸ among⟩
    simp only [report, filled, otherFilled]
    exact congrArg (fun rendered => Text.trimEnd (rendered ++ noteLine renderer.note)) exchanged
  · have kept : other.mentioned text = registry.mentioned text := by rw [chosen, chosen, same]
    have plain := renderer.report_congr template facts kept
    have written := renderer.recorded.report_congr template facts kept
    simp only [report, asked, plain, written, and_self]

/-- Names that begin and that hold one another, a fact that spells a tag, and a failed fetch. -/
theorem report_order_free_nested :
    let fetch : Fetch (StateM World) := fun source budget =>
      return if source.target == "x" then .error (.timedOut budget) else .ok source.target
    let renderer : Renderer (StateM World) := ⟨fetch, .ofSeconds 5, some "n"⟩
    let named (name url : String) := (name, { name, url, grammar := .text : Connection })
    let inner := named "a" "x"
    let outer := named "a\x7d\x7bAPI:a" "y"
    let longer := named "a\x7dz" "z"
    let registry : Registry := ⟨[inner, outer, longer]⟩
    let turned : Registry := ⟨[longer, outer, inner]⟩
    let larger : Registry := ⟨[inner, named "b" "w", outer, longer]⟩
    let facts : Facts := ⟨"h", "\x7bAPI:a\x7d", "i", "o", "c"⟩
    let template := "\x7bAPI:a\x7d\x7bAPI:a\x7d\x7bAPI:a\x7dz\x7d \x7buser\x7d"
    let world : World := ⟨⟨[], []⟩, [], ⟨0⟩, "", ""⟩
    let report (registry : Registry) := ((renderer.report template facts registry).run world).1
    registry.Sound ∧ renderer.Steady ∧ turned.toList.Perm registry.toList ∧
      (report registry).text = "yz (error)\nNote: n" ∧
      (report turned).text = (report registry).text ∧
      (report larger).text = (report registry).text := by
  intro fetch renderer named inner outer longer registry turned larger facts template world report
  have sound : registry.Sound := ⟨by decide, by decide, by decide⟩
  have steady : renderer.Steady := .of_answers _ fun _ => rfl
  have permuted : turned.toList.Perm registry.toList := by decide
  refine ⟨sound, steady, permuted, by decide +kernel, ?_, ?_⟩
  · exact ((report_order_free renderer template facts registry turned sound world).1 steady permuted).1
  · refine ((report_order_free renderer template facts registry larger sound world).2 ?_).1
    decide +kernel

end Renderer

end Placard
