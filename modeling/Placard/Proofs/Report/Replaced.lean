import Placard.Proofs.Report.Single
import Placard.Proofs.Template.Occurrences

/-! No tag is left behind: what stands in a text is what is asked for, and every place of it is replaced. -/

namespace Placard

/-- The tokens of the facts are in brackets. -/
theorem Facts.table_bracketed (facts : Facts) :
    ∀ token ∈ Template.tokensOf facts.table, Template.Bracketed token := by
  -- The values change nothing about the five tokens.
  have tokens : Template.tokensOf facts.table = factTokens.map String.toList := rfl
  have words : factTokens.map String.toList =
      ["hostname", "user", "ip", "os", "cores"].map fun word => '{' :: word.toList ++ ['}'] := by decide
  rw [tokens, words]
  intro token listed
  obtain ⟨word, among, rfl⟩ := List.mem_map.mp listed
  refine ⟨word.toList, rfl, ?_⟩
  revert word
  decide

/-- The tag of a connection is in brackets where its name has no braces. -/
theorem Connection.tag_bracketed {connection : Connection}
    (plain : '{' ∉ connection.name.toList ∧ '}' ∉ connection.name.toList) :
    Template.Bracketed connection.tag.toList := by
  refine ⟨"API:".toList ++ connection.name.toList, by simp [tag], ?_, ?_⟩
  · simpa using plain.1
  · simpa using plain.2

namespace Renderer

variable {σ : Type} [Machine (StateM σ)]

/-- Visits of connections without braces in their names give a table of tokens in brackets. -/
theorem Visits.table_bracketed {renderer : Renderer (StateM σ)} {connections : List Connection}
    {start final : σ} {tags : List TagResolution} {log : List Exchange}
    (visits : Visits renderer connections start tags log final)
    (plain : ∀ connection ∈ connections, '{' ∉ connection.name.toList ∧ '}' ∉ connection.name.toList) :
    ∀ token ∈ Template.tokensOf (tags.map fun tag => (tag.tag, tag.resolution.text)),
      Template.Bracketed token := by
  intro token listed
  obtain ⟨entry, among, rfl⟩ := List.mem_map.mp listed
  have isTag : entry.1 ∈ connections.map (·.tag) := visits.keys_eq ▸ List.mem_map_of_mem among
  obtain ⟨connection, visited, same⟩ := List.mem_map.mp isTag
  exact same ▸ Connection.tag_bracketed (plain connection visited)

/-- Where names are distinct, a connection that was visited has one resolution, and its text in the table. -/
theorem Visits.own_entry {renderer : Renderer (StateM σ)} {connections : List Connection}
    {start final : σ} {tags : List TagResolution} {log : List Exchange}
    (visits : Visits renderer connections start tags log final)
    (distinct : (connections.map (·.name)).Nodup) {connection : Connection}
    (member : connection ∈ connections) : ∃ resolution,
      tags.filter (·.connection == connection.name) =
        [⟨connection.name, connection.tag, resolution⟩] ∧
      (connection.tag, resolution.text) ∈ tags.map fun tag => (tag.tag, tag.resolution.text) := by
  have only := mapM_resolveTag_member renderer distinct member start
  rw [visits.mapM_resolveTag] at only
  -- Whatever a connection comes to, it is kept under its name and its tag.
  obtain ⟨resolution, resolved⟩ : ∃ resolution, ((connection.resolve renderer.fetch renderer.budget).run
      (renderer.comingTo connection.name connections start)).1 = resolution := ⟨_, rfl⟩
  have entry : ((renderer.resolveTag connection).run
      (renderer.comingTo connection.name connections start)).1 =
        ⟨connection.name, connection.tag, resolution⟩ := by
    rw [← resolved]
    rfl
  rw [entry] at only
  have among : (⟨connection.name, connection.tag, resolution⟩ : TagResolution) ∈ tags :=
    (List.mem_filter.mp (only ▸ List.mem_cons_self)).1
  exact ⟨resolution, only, List.mem_map.mpr ⟨_, among, rfl⟩⟩

/-- No tag is left behind where names have no braces.

In the template, every place of the token of a fact is replaced by the fact. In the text that this
gives, the tag of a connection is replaced wherever it stands: the connection is visited once if its
tag stands there at all, and then the one text that became of it is put in at each of the places. -/
theorem report_replaces_tags (renderer : Renderer (StateM σ)) (template : String) (facts : Facts)
    (registry : Registry) (start : σ) :
    let text := facts.fill template
    (∃ pieces, Template.Exhausts facts.table template text pieces) ∧
    (registry.Sound →
      (∀ connection ∈ registry.toList,
        '{' ∉ connection.name.toList ∧ '}' ∉ connection.name.toList) →
      ∃ report log final visited rendered pieces,
        ((renderer.recorded.report template facts registry).run []).run start =
          ((report, log), final) ∧
        (renderer.report template facts registry).run start = (report, final) ∧
        Visits renderer visited start report.tags log final ∧
        visited.Sublist registry.toList ∧ (visited.map (·.name)).Nodup ∧
        log.length = visited.length ∧
        let table := report.tags.map fun tag => (tag.tag, tag.resolution.text)
        Template.Exhausts table text rendered pieces ∧
        Text.TrimsTo (rendered ++ noteLine renderer.note).toList report.text.toList ∧
        ∀ connection ∈ registry.toList,
          pieces.count connection.tag.toList =
            Template.occurrences connection.tag.toList text.toList ∧
          (connection ∈ visited ↔ 0 < pieces.count connection.tag.toList) ∧
          (connection ∈ visited → ∃ resolution,
            report.tags.filter (·.connection == connection.name) =
              [⟨connection.name, connection.tag, resolution⟩] ∧
            ∀ before after, text = before ++ connection.tag ++ after →
              rendered = Template.substitute table before ++ resolution.text ++
                Template.substitute table after)) := by
  intro text
  refine ⟨Template.substitute_exhausts facts.table_tokens.1 facts.table_bracketed template,
    fun sound plain => ?_⟩
  have distinct : ((registry.mentioned text).map (·.name)).Nodup :=
    sound.distinct.sublist (List.filter_sublist.map _)
  obtain ⟨tags, log, final, visits, written⟩ :=
    mapM_resolveTag_visits renderer (registry.mentioned text) [] start
  have tagsDistinct := (visits.table_tokens distinct).1
  have bracketed := visits.table_bracketed fun connection mentioned =>
    plain connection (List.mem_filter.mp mentioned).1
  obtain ⟨pieces, exhausts⟩ := Template.substitute_exhausts tagsDistinct bracketed text
  refine ⟨⟨Text.trimEnd (Template.substitute (tags.map fun tag => (tag.tag, tag.resolution.text)) text ++
    noteLine renderer.note), tags⟩, log, final, registry.mentioned text, _, pieces, ?_, ?_, visits,
    List.filter_sublist, distinct, visits.log_length, exhausts, ?_, fun connection member => ?_⟩
  · have note : renderer.recorded.note = renderer.note := rfl
    simp [report, text, written, note]
  · simp [report, text, visits.mapM_resolveTag]
  · simpa [Text.trimEnd] using Text.trimsTo_cutBlanks _
  · -- A connection that is mentioned has an entry of its own; any other has no place in the text.
    have chosen : connection ∈ registry.mentioned text ↔ connection.tag.toList <:+: text.toList := by
      rw [Registry.mentioned_eq, List.mem_filter, decide_eq_true_iff, and_iff_right member]
    have counted : pieces.count connection.tag.toList =
        Template.occurrences connection.tag.toList text.toList := by
      by_cases mentioned : connection ∈ registry.mentioned text
      · obtain ⟨resolution, -, listed⟩ := visits.own_entry distinct mentioned
        exact exhausts.counted _ listed
      · have absent : ¬ 0 < Template.occurrences connection.tag.toList text.toList := fun stands =>
          mentioned (chosen.mpr (Template.occurrences_pos_iff.mp stands))
        have tiling := (exhausts.tiled pieces).mpr rfl
        rw [Nat.eq_zero_of_not_pos absent, List.count_eq_zero]
        exact fun among => mentioned (chosen.mpr (tiling.piece_infix among))
    refine ⟨counted, ?_, fun mentioned => ?_⟩
    · rw [counted, Template.occurrences_pos_iff, chosen]
    · obtain ⟨resolution, only, listed⟩ := visits.own_entry distinct mentioned
      exact ⟨resolution, only, exhausts.replaced _ listed⟩

/-- A brace before a tag, a tag that stands twice, and one that does not stand in the text at all. -/
theorem report_replaces_tags_twice :
    let registry : Registry := ⟨[("a", { name := "a", url := "x", grammar := .text }),
      ("b", { name := "b", url := "y" })]⟩
    let renderer : Renderer (StateM World) := ⟨fun source _ => return .ok source.target, .ofSeconds 5, none⟩
    let template := "\x7b\x7buser\x7d\x7bAPI:a\x7d\x7bAPI:a\x7d."
    let facts : Facts := ⟨"h", "\x7b", "i", "o", "c"⟩
    let world : World := ⟨⟨[], []⟩, [], ⟨0⟩, "", ""⟩
    registry.Sound ∧
      (∀ connection ∈ registry.toList,
        '{' ∉ connection.name.toList ∧ '}' ∉ connection.name.toList) ∧
      Template.occurrences "\x7bAPI:a\x7d".toList (facts.fill template).toList = 2 ∧
      ∃ report log final, ∃ visited : List Connection,
        (renderer.report template facts registry).run world = (report, final) ∧
        Visits renderer visited world report.tags log final ∧
        visited.map (·.name) = ["a"] ∧ report.text = "\x7b\x7bxx." := by
  intro registry renderer template facts world
  have sound : registry.Sound := ⟨by decide, by decide, by decide⟩
  have plain : ∀ connection ∈ registry.toList,
      '{' ∉ connection.name.toList ∧ '}' ∉ connection.name.toList := by decide
  obtain ⟨report, log, final, visited, rendered, pieces, -, ran, visits, -⟩ :=
    (report_replaces_tags renderer template facts registry world).2 sound plain
  refine ⟨sound, plain, by decide +kernel, report, log, final, visited, ran, visits, ?_, ?_⟩
  · have names : (((renderer.report template facts registry).run world).1.tags.map (·.connection)) = ["a"] := by
      decide +kernel
    rw [ran] at names
    rw [← visits.names_eq, names]
  · have filled : ((renderer.report template facts registry).run world).1.text = "\x7b\x7bxx." := by
      decide +kernel
    rwa [ran] at filled

end Renderer

end Placard
