import Placard.Proofs.Report.Filled

/-! A template that is one tag: it is filled with what becomes of the connection, whatever tags are inside. -/

namespace Placard

namespace Template

/-- Where no token begins, every character is a piece of its own. -/
theorem tiling_of_absent {tokens : List (List Char)} {text : List Char}
    (absent : ∀ token ∈ tokens, ¬ token <:+: text) :
    Tiling tokens text (text.map ([·])) := by
  -- What is a part of the rest of a text is a part of the text.
  induction text with
  | nil => exact .done
  | cons c rest ih =>
    refine .plain (fun token member begins => absent token member begins.isInfix) ?_
    exact ih fun token member inside =>
      absent token member (inside.trans (List.suffix_cons c rest).isInfix)

/-- A text without tokens in it is left as it is. -/
theorem substitute_of_absent {table : List (String × String)} (distinct : (table.map (·.1)).Nodup)
    (braced : Braced (tokensOf table)) {text : String}
    (absent : ∀ token ∈ tokensOf table, ¬ token <:+: text.toList) : substitute table text = text := by
  have tiling := tiling_of_absent absent
  refine ((rewrites_iff distinct braced).mp ⟨_, tiling, ?_⟩).symm
  -- No piece is a token, so each of them stays.
  have kept (letters : List Char) (part : letters <:+: text.toList) :
      (letters.map ([·])).flatMap (replacement table) = letters := by
    induction letters with
    | nil => rfl
    | cons c rest ih =>
      have plain : [c] ∉ tokensOf table := fun member =>
        absent _ member ((List.prefix_append [c] rest).isInfix.trans part)
      rw [List.map_cons, List.flatMap_cons, replacement_plain plain,
        ih ((List.suffix_cons c rest).isInfix.trans part)]
      rfl
  exact (kept _ (List.infix_refl _)).symm

/-- A text that is a token is replaced as a whole, whatever tokens are inside. -/
theorem substitute_token {table : List (String × String)} (distinct : (table.map (·.1)).Nodup)
    (braced : Braced (tokensOf table)) {entry : String × String} (member : entry ∈ table) :
    substitute table entry.1 = entry.2 := by
  -- No token that begins the text is longer than the text itself.
  have longest : LongestToken (tokensOf table) (entry.1.toList ++ []) entry.1.toList := by
    rw [List.append_nil]
    exact ⟨List.mem_map_of_mem member, List.prefix_refl _, fun _ _ begins => begins.length_le⟩
  have tiling : Tiling (tokensOf table) entry.1.toList [entry.1.toList] := by
    simpa using Tiling.token longest .done
  refine ((rewrites_iff distinct braced).mp ⟨_, tiling, ?_⟩).symm
  rw [List.flatMap_singleton, replacement_token distinct member]

end Template

/-- A text in which no token of a fact stands is the same with any facts filled in. -/
theorem Facts.fill_of_absent (facts : Facts) {text : String}
    (absent : ∀ token ∈ factTokens, ¬ token.toList <:+: text.toList) : facts.fill text = text := by
  -- The values change nothing about the five tokens.
  have tokens : Template.tokensOf facts.table = factTokens.map String.toList := rfl
  obtain ⟨distinct, braced⟩ := facts.table_tokens
  refine Template.substitute_of_absent distinct braced fun token among => ?_
  rw [tokens] at among
  obtain ⟨fact, listed, rfl⟩ := List.mem_map.mp among
  exact absent fact listed

/-- The tag of a connection mentions the connection. -/
theorem Registry.mem_mentioned_tag {registry : Registry} {connection : Connection}
    (member : connection ∈ registry.toList) : connection ∈ registry.mentioned connection.tag := by
  rw [mentioned_eq]
  exact List.mem_filter.mpr ⟨member, by simp⟩

namespace Renderer

variable {σ : Type} [Machine (StateM σ)]

/-- The state in which connections come to the one of a name: those before it have been resolved. -/
def comingTo (renderer : Renderer (StateM σ)) (name : String) (connections : List Connection) (start : σ) :
    σ :=
  (((connections.takeWhile (·.name != name)).mapM renderer.resolveTag).run start).2

/-- Where names are distinct, a connection of a list stands behind those before its name. -/
theorem exists_before {connections : List Connection} {connection : Connection}
    (distinct : (connections.map (·.name)).Nodup) (member : connection ∈ connections) :
    ∃ rest, connections =
      connections.takeWhile (·.name != connection.name) ++ connection :: rest := by
  obtain ⟨before, rest, rfl⟩ := List.append_of_mem member
  refine ⟨rest, ?_⟩
  rw [List.map_append, List.map_cons, List.nodup_append] at distinct
  have others : ∀ other ∈ before, (other.name != connection.name) = true := by
    intro other earlier
    have apart := distinct.2.2 other.name (List.mem_map_of_mem earlier) connection.name (by simp)
    simpa using apart
  rw [List.takeWhile_append_of_pos others, List.takeWhile_cons_of_neg (by simp), List.append_nil]

/-- Resolutions stand under the names of their connections, in the same order. -/
theorem mapM_resolveTag_names (renderer : Renderer (StateM σ)) (connections : List Connection) (start : σ) :
    ((connections.mapM renderer.resolveTag).run start).1.map (·.connection) = connections.map (·.name) := by
  obtain ⟨tags, log, final, visits, -⟩ := mapM_resolveTag_visits renderer connections [] start
  rw [visits.mapM_resolveTag]
  exact visits.names_eq

/-- Each connection of a list is resolved once, in the state in which its turn comes. -/
theorem mapM_resolveTag_member (renderer : Renderer (StateM σ)) {connections : List Connection}
    {connection : Connection} (distinct : (connections.map (·.name)).Nodup)
    (member : connection ∈ connections) (start : σ) :
    ((connections.mapM renderer.resolveTag).run start).1.filter (·.connection == connection.name) =
      [((renderer.resolveTag connection).run
        (renderer.comingTo connection.name connections start)).1] := by
  -- The resolutions before and behind its own stand under other names.
  obtain ⟨rest, parted⟩ := exists_before distinct member
  rw [comingTo]
  generalize connections.takeWhile (·.name != connection.name) = before at parted ⊢
  subst parted
  rw [List.map_append, List.map_cons, List.nodup_append, List.nodup_cons] at distinct
  have apart {others : List Connection} (absent : connection.name ∉ others.map (·.name)) (state : σ) :
      ((others.mapM renderer.resolveTag).run state).1.filter (·.connection == connection.name) = [] := by
    rw [List.filter_eq_nil_iff]
    intro tag among
    have name := List.mem_map_of_mem (f := TagResolution.connection) among
    rw [mapM_resolveTag_names] at name
    rw [beq_iff_eq]
    rintro same
    exact absent (same ▸ name)
  have front : connection.name ∉ before.map (·.name) := fun among =>
    distinct.2.2 _ among _ List.mem_cons_self rfl
  rw [List.mapM_append, List.mapM_cons]
  simp only [StateT.run_bind, id_bind_eq, StateT.run_pure, id_pure_eq, List.filter_append, List.filter_cons,
    apart front, apart distinct.2.1.1, List.nil_append]
  rw [resolveTag]
  simp

/-- A report on the tag of a connection has one entry for it, and the text of that entry.

Connections whose tags are parts of this one are resolved too, but nothing of them comes into the text. -/
theorem report_tag (renderer : Renderer (StateM σ)) (facts : Facts) {registry : Registry}
    (sound : registry.Sound) {connection : Connection} (member : connection ∈ registry.toList)
    (plain : ∀ token ∈ factTokens, ¬ token.toList <:+: connection.tag.toList) (start : σ) :
    ∃ report final, (renderer.report connection.tag facts registry).run start = (report, final) ∧
      let resolution := ((connection.resolve renderer.fetch renderer.budget).run
        (renderer.comingTo connection.name (registry.mentioned connection.tag) start)).1
      report.tags.filter (·.connection == connection.name) =
        [⟨connection.name, connection.tag, resolution⟩] ∧
      report.text = Text.trimEnd (resolution.text ++ noteLine renderer.note) := by
  have kept := facts.fill_of_absent plain
  have mentioned := Registry.mem_mentioned_tag member
  have distinct : ((registry.mentioned connection.tag).map (·.name)).Nodup :=
    sound.distinct.sublist (List.filter_sublist.map _)
  obtain ⟨tags, log, final, visits, -⟩ :=
    mapM_resolveTag_visits renderer (registry.mentioned connection.tag) [] start
  obtain ⟨tagsDistinct, tagsBraced⟩ := visits.table_tokens distinct
  have own := mapM_resolveTag_member renderer distinct mentioned start
  rw [visits.mapM_resolveTag] at own
  obtain ⟨resolution, resolved⟩ : ∃ resolution,
      ((connection.resolve renderer.fetch renderer.budget).run
        (renderer.comingTo connection.name (registry.mentioned connection.tag) start)).1 = resolution :=
    ⟨_, rfl⟩
  have tag : ((renderer.resolveTag connection).run
      (renderer.comingTo connection.name (registry.mentioned connection.tag) start)).1 =
        ⟨connection.name, connection.tag, resolution⟩ := by
    rw [← resolved]
    rfl
  rw [tag] at own
  -- The entry of the connection is in the table, and its tag is the whole template.
  have among : (⟨connection.name, connection.tag, resolution⟩ : TagResolution) ∈ tags :=
    (List.mem_filter.mp (own ▸ List.mem_cons_self)).1
  have entry : (connection.tag, resolution.text) ∈ tags.map fun tag => (tag.tag, tag.resolution.text) :=
    List.mem_map.mpr ⟨_, among, rfl⟩
  rw [resolved]
  refine ⟨⟨Text.trimEnd (resolution.text ++ noteLine renderer.note), tags⟩, final, ?_, own, rfl⟩
  rw [report, kept]
  simp [visits.mapM_resolveTag, Template.substitute_token tagsDistinct tagsBraced entry]

end Renderer

end Placard
