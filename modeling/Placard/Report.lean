import Placard.Facts
import Placard.Registry
import Placard.Resolution
import Placard.Template

/-! Templates filled in: facts first, then the connections whose tags are there, then a note. -/

namespace Placard

/-- A connection whose tag stands in a template, and what became of it. -/
structure TagResolution where
  connection : String
  tag : String
  resolution : Resolution
deriving Repr, Inhabited

/-- A filled template, with what became of the connections in it. -/
structure Report where
  text : String
  tags : List TagResolution
deriving Repr, Inhabited

/-- How templates are filled: where texts come from, how long that may take, and a note. -/
structure Renderer (m : Type → Type) where
  fetch : Fetch m
  budget : Duration
  note : Option String

/-- A template with the facts filled in. -/
def Facts.fill (facts : Facts) (template : String) : String :=
  Template.substitute facts.table template

/-- The connections whose tags stand in a text, in the order of the registry. -/
def Registry.mentioned (registry : Registry) (text : String) : List Connection :=
  registry.toList.filter fun connection => Text.contains connection.tag.toList text.toList

/-- The line that a note adds; a blank note adds none. -/
def noteLine (note : Option String) : String :=
  match note with
  | some text => if Text.allBlank text then "" else "\nNote: " ++ text
  | none => ""

namespace Renderer

variable {m : Type → Type} [Monad m] [Machine m]

/-- What becomes of a connection, under its tag. -/
def resolveTag (renderer : Renderer m) (connection : Connection) : m TagResolution := do
  let resolution ← connection.resolve renderer.fetch renderer.budget
  return ⟨connection.name, connection.tag, resolution⟩

/-- Fills a template; whatever fails leaves a mark in the text. -/
def report (renderer : Renderer m) (template : String) (facts : Facts) (registry : Registry) :
    m Report := do
  let text := facts.fill template
  let tags ← (registry.mentioned text).mapM renderer.resolveTag
  let table := tags.map fun tag => (tag.tag, tag.resolution.text)
  return ⟨Text.trimEnd (Template.substitute table text ++ noteLine renderer.note), tags⟩

/-- The text of a filled template. -/
def render (renderer : Renderer m) (template : String) (facts : Facts) (registry : Registry) :
    m String := do
  return (← renderer.report template facts registry).text

end Renderer

end Placard
