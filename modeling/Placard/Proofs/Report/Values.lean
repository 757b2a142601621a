import Placard.Proofs.Report.Filled
import Placard.Proofs.Template.Values

/-! What the values of facts decide about the connections that a report asks. -/

namespace Placard

/-- No value that a template has put in could take part in spelling the tag of a connection. -/
def Facts.Spares (facts : Facts) (template : String) (connection : Connection) : Prop :=
  ∀ entry ∈ facts.table, entry.1.toList <:+: template.toList →
    ¬ Template.Meets connection.tag.toList entry.2.toList

instance (facts : Facts) (template : String) (connection : Connection) :
    Decidable (facts.Spares template connection) :=
  inferInstanceAs (Decidable (∀ entry ∈ _, _ → _))

/-- The tag of a connection stands in a template by itself: in letters that are no token of a fact. -/
def Connection.NamedIn (connection : Connection) (template : String) : Prop :=
  Template.Plainly (factTokens.map String.toList) template.toList connection.tag.toList

/-- A connection that the template names by itself is mentioned, whatever the facts are. -/
theorem Connection.NamedIn.mentioned {connection : Connection} {template : String}
    (named : connection.NamedIn template) {registry : Registry} (member : connection ∈ registry.toList)
    (facts : Facts) : connection ∈ registry.mentioned (facts.fill template) := by
  obtain ⟨distinct, braced⟩ := facts.table_tokens
  rw [Registry.mentioned_eq, List.mem_filter, decide_eq_true_iff]
  exact ⟨member, Template.Plainly.infix_substitute distinct braced named⟩

/-- A connection that the values spare is mentioned only where the template names it by itself. -/
theorem Facts.Spares.mentioned_iff {facts : Facts} {template : String} {connection : Connection}
    (spared : facts.Spares template connection) {registry : Registry}
    (member : connection ∈ registry.toList) :
    connection ∈ registry.mentioned (facts.fill template) ↔ connection.NamedIn template := by
  obtain ⟨distinct, braced⟩ := facts.table_tokens
  have filled : connection.tag.toList ≠ [] := by simp [Connection.tag]
  rw [Registry.mentioned_eq, List.mem_filter, decide_eq_true_iff, and_iff_right member]
  exact Template.infix_substitute_iff distinct braced filled spared

/-- Facts that spare every connection leave the template to decide which connections are mentioned. -/
theorem Registry.mentioned_spared {registry : Registry} {template : String} {facts other : Facts}
    (spared : ∀ connection ∈ registry.toList,
      facts.Spares template connection ∧ other.Spares template connection) :
    registry.mentioned (other.fill template) = registry.mentioned (facts.fill template) := by
  rw [mentioned_eq, mentioned_eq]
  refine List.filter_congr fun connection member => ?_
  obtain ⟨first, second⟩ := spared connection member
  -- Both runs ask whether the template names the connection.
  have same := (second.mentioned_iff member).trans (first.mentioned_iff member).symm
  rw [mentioned_eq, mentioned_eq, List.mem_filter, List.mem_filter, and_iff_right member,
    and_iff_right member] at same
  exact Bool.eq_iff_iff.mpr same

namespace Renderer

variable {σ : Type} [Machine (StateM σ)]

/-- Which connections a report asks is decided by the template, as far as the values of the facts in
it could not take part in spelling a tag.

Whatever the facts are, a connection that the template names by itself is asked, and one that it does
not name is asked only if some value in the template meets its tag. Two sets of facts that spare
every connection lead to the same exchanges in the same order. -/
theorem report_asks_named (renderer : Renderer (StateM σ)) (template : String) (registry : Registry)
    (start : σ) :
    let asked (facts : Facts) := (((renderer.recorded.report template facts registry).run []).run start).1.2
    (∀ facts : Facts, ∃ connections tags final,
      Visits renderer connections start tags (asked facts) final ∧
      connections.Sublist registry.toList ∧
      ∀ connection ∈ registry.toList,
        (connection.NamedIn template → connection ∈ connections) ∧
        (connection ∈ connections → facts.Spares template connection → connection.NamedIn template)) ∧
    ∀ facts other : Facts,
      (∀ connection ∈ registry.toList,
        facts.Spares template connection ∧ other.Spares template connection) →
      asked other = asked facts := by
  intro asked
  have visited (facts : Facts) : ∃ tags final,
      Visits renderer (registry.mentioned (facts.fill template)) start tags (asked facts) final := by
    obtain ⟨report, log, final, visits, written, -⟩ := renderer.report_visits template facts registry start
    exact ⟨report.tags, final, by simpa [asked, written] using visits⟩
  refine ⟨fun facts => ?_, fun facts other spared => ?_⟩
  · obtain ⟨tags, final, visits⟩ := visited facts
    exact ⟨_, tags, final, visits, List.filter_sublist, fun connection member =>
      ⟨fun named => named.mentioned member facts, fun found spares => (spares.mentioned_iff member).mp found⟩⟩
  · -- What is written down comes from the connections alone; the texts around them leave no trace.
    have resolved (facts : Facts) : asked facts = ((((registry.mentioned (facts.fill template)).mapM
        renderer.recorded.resolveTag).run []).run start).1.2 := by
      simp [asked, report]
    rw [resolved, resolved, Registry.mentioned_spared spared]

/-- Users that are called by a word and by a text in braces, beside a tag that the template names. -/
theorem report_asks_named_braced :
    let registry : Registry := ⟨[("a", { name := "a", url := "cmd://x" }), ("b", { name := "b", url := "y" })]⟩
    let renderer : Renderer (StateM World) := ⟨fun source _ => return .ok source.target, .ofSeconds 5, none⟩
    let template := "\x7bAPI:a\x7d by \x7buser\x7d"
    let facts : Facts := ⟨"h", "ana", "i", "o", "c"⟩
    let other : Facts := ⟨"a", "\x7bAPI:x\x7d", "", "o", "c"⟩
    let world : World := ⟨⟨[], []⟩, [], ⟨0⟩, "", ""⟩
    let asked (facts : Facts) := (((renderer.recorded.report template facts registry).run []).run world).1.2
    (∀ connection ∈ registry.toList,
        facts.Spares template connection ∧ other.Spares template connection) ∧
      asked other = asked facts ∧ (asked other).map (·.source) = [.command "x"] := by
  intro registry renderer template facts other world asked
  have spared : ∀ connection ∈ registry.toList,
      facts.Spares template connection ∧ other.Spares template connection := by decide +kernel
  exact ⟨spared, (report_asks_named renderer template registry world).2 facts other spared,
    by decide +kernel⟩

/-- A user whose name spells a tag has a command run of which the template says nothing. -/
theorem report_asks_spelled :
    let registry : Registry := ⟨[("a", { name := "a", url := "cmd://x" })]⟩
    let renderer : Renderer (StateM World) := ⟨fun source _ => return .ok source.target, .ofSeconds 5, none⟩
    let facts : Facts := ⟨"h", "ana", "i", "o", "c"⟩
    let other : Facts := ⟨"h", "\x7bAPI:a\x7d", "i", "o", "c"⟩
    let world : World := ⟨⟨[], []⟩, [], ⟨0⟩, "", ""⟩
    let asked (facts : Facts) :=
      (((renderer.recorded.report "\x7buser\x7d" facts registry).run []).run world).1.2.map (·.source)
    asked facts = [] ∧ asked other = [.command "x"] := by
  decide +kernel

end Renderer

end Placard
