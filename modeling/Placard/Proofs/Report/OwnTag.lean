import Placard.Proofs.Registry.Run
import Placard.Proofs.Report.Single
import Placard.Proofs.Template.Values

/-! A template that is the tag of a connection: which names let it lead to the connection. -/

namespace Placard

namespace Renderer

variable {σ : Type} [Machine (StateM σ)]

/-- A connection whose tag is longer than what the facts make of it is not in a report on its tag. -/
theorem report_tag_short (renderer : Renderer (StateM σ)) {facts : Facts} {connection : Connection}
    (short : (facts.fill connection.tag).toList.length < connection.tag.toList.length)
    (registry : Registry) (start : σ) :
    ((renderer.report connection.tag facts registry).run start).1.tags.filter
      (·.connection == connection.name) = [] := by
  obtain ⟨report, log, final, visits, -, ran⟩ := renderer.report_visits connection.tag facts registry start
  rw [ran, List.filter_eq_nil_iff]
  intro tag among own
  -- A resolution of this name would stand under the same tag, which is too long for the text.
  have pair : (tag.connection, tag.tag) ∈ report.tags.map fun tag => (tag.connection, tag.tag) :=
    List.mem_map_of_mem among
  rw [visits.tags_eq] at pair
  obtain ⟨other, mentioned, same⟩ := List.mem_map.mp pair
  have named : other.name = connection.name := (congrArg Prod.fst same).trans (eq_of_beq own)
  have tagged : other.tag = connection.tag := by rw [Connection.tag, Connection.tag, named]
  rw [Registry.mentioned_eq, List.mem_filter, decide_eq_true_iff, tagged] at mentioned
  exact absurd mentioned.2.length_le (by omega)

/-- The tag of a connection leads to it, with every fact and every fetcher, unless the token of a fact
stands in the tag.

Where none does, the report on the tag asks the source of the connection in its turn, has one entry
for it, and has the text of that entry, whatever tags of others are inside. Where one does, facts
shorter than the tokens in the tag turn it into a text in which the connection is not found. -/
theorem report_own_tag (actions : List Registry.Action) {connection : Connection}
    (member : connection ∈ (Registry.run actions).toList) (renderer : Renderer (StateM σ))
    (bare : renderer.note = none) (facts : Facts) (start : σ) :
    let registry := Registry.run actions
    ∃ report log final,
      ((renderer.recorded.report connection.tag facts registry).run []).run start =
        ((report, log), final) ∧
      (renderer.report connection.tag facts registry).run start = (report, final) ∧
      ((∀ token ∈ factTokens, ¬ token.toList <:+: connection.tag.toList) →
        let turn := renderer.comingTo connection.name (registry.mentioned connection.tag) start
        let looked := (connection.source : StateM σ Source).run turn
        let resolution := ((connection.resolve renderer.fetch renderer.budget).run turn).1
        ⟨looked.1, renderer.budget, ((renderer.fetch looked.1 renderer.budget).run looked.2).1⟩ ∈ log ∧
          report.tags.filter (·.connection == connection.name) =
            [⟨connection.name, connection.tag, resolution⟩] ∧
          Text.TrimsTo resolution.text.toList report.text.toList) ∧
      ((∃ token ∈ factTokens, token.toList <:+: connection.tag.toList) →
        (∀ entry ∈ facts.table, entry.1.toList <:+: connection.tag.toList →
          entry.2.toList.length < entry.1.toList.length) →
        report.tags.filter (·.connection == connection.name) = []) := by
  intro registry
  have sound : registry.Sound := Registry.run_sound actions
  obtain ⟨report, log, final, visits, written, ran⟩ :=
    renderer.report_visits connection.tag facts registry start
  refine ⟨report, log, final, written, ran, fun plain => ?_, fun inside shorter => ?_⟩
  · -- The facts leave the tag as it is, and names are distinct, so the connection has one turn.
    intro turn looked resolution
    rw [facts.fill_of_absent plain] at visits
    have distinct : ((registry.mentioned connection.tag).map (·.name)).Nodup :=
      sound.distinct.sublist (List.filter_sublist.map _)
    obtain ⟨rest, parted⟩ := exists_before distinct (Registry.mem_mentioned_tag member)
    obtain ⟨made, left, same, entry, text⟩ := renderer.report_tag facts sound member plain start
    obtain ⟨rfl, rfl⟩ := Prod.mk.inj (ran.symm.trans same)
    refine ⟨?_, entry, ?_⟩
    · rw [parted] at visits
      exact visits.exchange
    · rw [text, bare, noteLine, String.append_empty, Text.trimEnd, String.toList_ofList]
      exact Text.trimsTo_cutBlanks _
  · -- The text comes out shorter than the tag, so the tag cannot stand in it.
    obtain ⟨token, listed, within⟩ := inside
    obtain ⟨distinct, braced⟩ := facts.table_tokens
    have isToken : token.toList ∈ Template.tokensOf facts.table :=
      List.mem_map_of_mem (f := String.toList) listed
    have short := Template.length_substitute_lt distinct braced shorter isToken within
    have missed := renderer.report_tag_short short registry start
    rwa [ran] at missed

/-- A name that holds the tag of another connection and almost the token of a fact. -/
theorem report_own_tag_nested :
    let inner : Connection := { name := "b", url := "cmd://x", grammar := .text }
    let outer : Connection := { name := "a\x7d\x7bAPI:b\x7d\x7buse", url := "cmd://y", grammar := .text }
    let actions : List Registry.Action := [.add inner, .add outer]
    let fetch : Fetch (StateM World) := fun source _ => return .ok (source.target ++ " \n")
    let renderer : Renderer (StateM World) := ⟨fetch, .ofSeconds 5, none⟩
    let facts : Facts := ⟨"h", "u", "i", "o", "c"⟩
    let world : World := ⟨⟨[], []⟩, [], ⟨0⟩, "", ""⟩
    outer ∈ (Registry.run actions).toList ∧ ∃ report log final,
      ((renderer.recorded.report outer.tag facts (Registry.run actions)).run []).run world =
        ((report, log), final) ∧
      (⟨.command "y", .ofSeconds 5, .ok "y \n"⟩ : Exchange) ∈ log ∧
      log.length = 2 ∧ report.text = "y" := by
  intro inner outer actions fetch renderer facts world
  have member : outer ∈ (Registry.run actions).toList := by decide
  obtain ⟨report, log, final, written, ran, plain, -⟩ :=
    report_own_tag actions member renderer rfl facts world
  have asked := (plain (by decide)).1
  have source : ((outer.source : StateM World Source).run (renderer.comingTo outer.name
      ((Registry.run actions).mentioned outer.tag) world)).1 = .command "y" := by decide +kernel
  rw [source] at asked
  refine ⟨member, report, log, final, written, asked, ?_, ?_⟩
  · have both : (((renderer.recorded.report outer.tag facts (Registry.run actions)).run []).run
        world).1.2.length = 2 := by decide +kernel
    rwa [written] at both
  · have filled : ((renderer.report outer.tag facts (Registry.run actions)).run world).1.text = "y" := by
      decide +kernel
    rwa [ran] at filled

/-- The connection whose name is the token of the user is not asked for by its own tag. -/
theorem report_own_tag_missed :
    let connection : Connection := { name := "\x7buser\x7d", url := "cmd://x", grammar := .text }
    let actions : List Registry.Action := [.add connection]
    let fetch : Fetch (StateM World) := fun _ _ => return .ok "v"
    let renderer : Renderer (StateM World) := ⟨fetch, .ofSeconds 5, none⟩
    let facts : Facts := ⟨"h", "ana", "i", "o", "c"⟩
    let world : World := ⟨⟨[], []⟩, [], ⟨0⟩, "", ""⟩
    let ran := ((renderer.recorded.report connection.tag facts (Registry.run actions)).run []).run world
    connection ∈ (Registry.run actions).toList ∧
      ((connection.resolve renderer.fetch renderer.budget).run world).1.text = "v" ∧
      ran.1.2.length = 0 ∧ ran.1.1.text = "\x7bAPI:ana\x7d" := by
  decide +kernel

end Renderer

end Placard
