import Placard.Proofs.Registry.Sound
import Placard.Proofs.Report.Exchange
import Placard.Proofs.Template.Tiling
import Placard.Proofs.Text.Blank

/-! A filled template: what is fetched for it, what its tags become, and what its text is. -/

namespace Placard

/-- The tokens of the facts are distinct, and each begins with a brace. -/
theorem Facts.table_tokens (facts : Facts) :
    (facts.table.map (·.1)).Nodup ∧ Template.Braced (Template.tokensOf facts.table) := by
  -- The values change nothing about the five tokens.
  have tokens : facts.table.map (·.1) = factTokens := rfl
  have letters : Template.tokensOf facts.table = factTokens.map String.toList := rfl
  constructor
  · rw [tokens]
    decide
  · rw [letters]
    unfold Template.Braced
    decide

/-- Connections of different names have different tags. -/
theorem Connection.tag_inj {left right : Connection} (same : left.tag = right.tag) :
    left.name = right.name := by
  -- Both tags put the name between the same two texts.
  have letters := congrArg String.toList same
  simp only [tag, String.toList_append, List.append_cancel_left_eq,
    List.append_cancel_right_eq] at letters
  exact String.toList_inj.mp letters

/-- A tag begins with a brace. -/
theorem Connection.tag_head (connection : Connection) :
    connection.tag.toList.head? = some '{' := by
  simp [tag]

/-- The connections whose tags stand in a text are those whose tags are parts of it. -/
theorem Registry.mentioned_eq (registry : Registry) (text : String) :
    registry.mentioned text =
      registry.toList.filter fun connection => connection.tag.toList <:+: text.toList := by
  refine List.filter_congr fun connection _ => ?_
  rw [Bool.eq_iff_iff, decide_eq_true_iff, Text.contains_iff]
  exact exists_congr fun before => exists_congr fun after => eq_comm

namespace Renderer

/-- What a renderer adds behind a text is its note, where that is not blank. -/
theorem noteLine_eq (note : Option String) :
    noteLine note = ((note.filter fun text => !Text.allBlank text).map ("\nNote: " ++ ·)).getD "" := by
  cases note with
  | none => rfl
  | some text =>
    unfold noteLine
    cases blank : Text.allBlank text <;> simp [Option.filter, blank]

variable {σ : Type} [Machine (StateM σ)]

/-- Visits of connections with different names give a table that substitution can follow. -/
theorem Visits.table_tokens {renderer : Renderer (StateM σ)} {connections : List Connection}
    {start final : σ} {tags : List TagResolution} {log : List Exchange}
    (visits : Visits renderer connections start tags log final)
    (distinct : (connections.map (·.name)).Nodup) :
    let table := tags.map fun tag => (tag.tag, tag.resolution.text)
    (table.map (·.1)).Nodup ∧ Template.Braced (Template.tokensOf table) := by
  intro table
  -- The tokens are the tags of the connections, in their order.
  have tokens : table.map (·.1) = connections.map (·.tag) := visits.keys_eq
  refine ⟨?_, fun token member => ?_⟩
  · rw [tokens, List.Nodup, List.pairwise_map]
    exact (List.pairwise_map.mp distinct).imp fun different same =>
      different (Connection.tag_inj same)
  · obtain ⟨entry, listed, rfl⟩ := List.mem_map.mp member
    have isTag : entry.1 ∈ connections.map (·.tag) := tokens ▸ List.mem_map_of_mem listed
    obtain ⟨connection, _, same⟩ := List.mem_map.mp isTag
    exact same ▸ connection.tag_head

/-- Filling a template visits the connections whose tags stand in it once each, and in order.

The facts are put in first. What a visit comes to changes no later visit; it only decides the text
that stands for its tag. The note is put behind the result as it is, and only blanks at the end of
all this are left out. -/
theorem report_filled (renderer : Renderer (StateM σ)) (template : String) (facts : Facts)
    (registry : Registry) (sound : registry.Sound) (start : σ) :
    let text := facts.fill template
    let mentioned := registry.toList.filter fun connection =>
      ("\x7bAPI:" ++ connection.name ++ "\x7d").toList <:+: text.toList
    let note := ((renderer.note.filter fun note => !Text.allBlank note).map ("\nNote: " ++ ·)).getD ""
    ∃ report log final rendered,
      (∀ other, Template.Rewrites facts.table template other ↔ other = text) ∧
      ((renderer.recorded.report template facts registry).run []).run start =
        ((report, log), final) ∧
      (renderer.report template facts registry).run start = (report, final) ∧
      (mentioned.map (·.name)).Nodup ∧
      Visits renderer mentioned start report.tags log final ∧
      log.length = mentioned.length ∧
      report.tags.map (fun tag => (tag.connection, tag.tag)) =
        mentioned.map (fun connection => (connection.name, connection.tag)) ∧
      (∀ other, Template.Rewrites (report.tags.map fun tag => (tag.tag, tag.resolution.text))
        text other ↔ other = rendered) ∧
      Text.TrimsTo (rendered ++ note).toList report.text.toList := by
  intro text mentioned note
  have chosen : registry.mentioned text = mentioned := registry.mentioned_eq text
  have distinct : (mentioned.map (·.name)).Nodup :=
    sound.distinct.sublist (List.filter_sublist.map _)
  obtain ⟨factsDistinct, factsBraced⟩ := facts.table_tokens
  obtain ⟨tags, log, final, visits, written⟩ := mapM_resolveTag_visits renderer mentioned [] start
  obtain ⟨tagsDistinct, tagsBraced⟩ := visits.table_tokens distinct
  let rendered := Template.substitute (tags.map fun tag => (tag.tag, tag.resolution.text)) text
  have added : noteLine renderer.note = note := noteLine_eq renderer.note
  have kept : renderer.recorded.note = renderer.note := rfl
  refine ⟨⟨Text.trimEnd (rendered ++ note), tags⟩, log, final, rendered,
    fun other => Template.rewrites_iff factsDistinct factsBraced, ?_, ?_, distinct, visits,
    visits.log_length, visits.tags_eq,
    fun other => Template.rewrites_iff tagsDistinct tagsBraced, ?_⟩
  · -- With every exchange written down, the report is made of the visits.
    have ran : ((mentioned.mapM renderer.recorded.resolveTag).run []).run start =
        ((tags, log), final) := written
    simp [report, text, chosen, ran, rendered, kept, added]
  · simp [report, text, chosen, visits.mapM_resolveTag, rendered, added]
  · simpa [Text.trimEnd] using Text.trimsTo_cutBlanks (rendered ++ note).toList

/-- A tag that begins another tag, a fact that spells a tag, a failure, and a note with a blank. -/
theorem report_filled_overlapping :
    let fetch : Fetch (StateM World) := fun source budget =>
      return if source.target == "x" then .error (.timedOut budget) else .ok " 7\n"
    let renderer : Renderer (StateM World) := ⟨fetch, .ofSeconds 5, some "n "⟩
    let outer := "a\x7d\x7bAPI:a"
    let registry : Registry :=
      ⟨[("a", { name := "a", url := "x" }),
        (outer, { name := outer, url := "y", grammar := .text })]⟩
    let facts : Facts := ⟨"h", "\x7bAPI:a\x7d", "i", "o", "c"⟩
    let template := "\x7bAPI:a\x7d\x7bAPI:a\x7d \x7buser\x7d"
    let world : World := ⟨⟨[], []⟩, [], ⟨0⟩, "", ""⟩
    registry.Sound ∧ ∃ report log final,
      ((renderer.recorded.report template facts registry).run []).run world =
        ((report, log), final) ∧
      (renderer.report template facts registry).run world = (report, final) ∧
      Visits renderer registry.toList world report.tags log final ∧
      log.map (·.source.target) = ["x", "y"] ∧
      report.text = "7 (error)\nNote: n" := by
  intro fetch renderer outer registry facts template world
  have sound : registry.Sound := ⟨by decide, by decide, by decide⟩
  obtain ⟨report, log, final, rendered, _, written, ran, _, visits, _⟩ :=
    report_filled renderer template facts registry sound world
  refine ⟨sound, report, log, final, written, ran, ?_, ?_, ?_⟩
  · have all : (registry.toList.filter fun connection =>
        ("\x7bAPI:" ++ connection.name ++ "\x7d").toList <:+: (facts.fill template).toList) =
        registry.toList := by decide +kernel
    exact all ▸ visits
  · have asked : (((renderer.recorded.report template facts registry).run []).run world).1.2.map
        (·.source.target) = ["x", "y"] := by decide +kernel
    rwa [written] at asked
  · have filled : ((renderer.report template facts registry).run world).1.text =
        "7 (error)\nNote: n" := by decide +kernel
    rwa [ran] at filled

end Renderer

end Placard
