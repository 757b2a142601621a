import Placard.Command.Context
import Placard.Command.View
import Placard.Text.Grid

/-! Filling a template once and putting it out, with or without an account of its connections. -/

namespace Placard

/-- What became of a connection, as a JSON value; a detail is left out where there is none. -/
def TagResolution.toJson (tag : TagResolution) : Json :=
  let detail := match tag.resolution.detail? with
    | some detail => [("detail", Json.string detail)]
    | none => []
  .object ([("connection", .string tag.connection), ("status", .string tag.resolution.status),
    ("value", .string tag.resolution.text)] ++ detail)

/-- What became of a connection, as a row of a grid. -/
def TagResolution.row (tag : TagResolution) : List String :=
  [tag.connection, tag.resolution.status, tag.resolution.text, tag.resolution.detail?.getD ""]

namespace Report

/-- A filled template as a result. -/
def view (report : Report) : View where
  json := .object [("text", .string report.text), ("connections", .array (report.tags.map TagResolution.toJson))]
  table := report.text
  plain := report.text

/-- An account of the connections that a template names. -/
def account (report : Report) : String :=
  if report.tags.isEmpty then "No connections referenced."
  else Text.Grid.render ["Connection", "Status", "Value", "Detail"] (report.tags.map TagResolution.row)

end Report

namespace Command

variable {m : Type → Type} [Monad m] [Machine m]

/-- Fills a template once and puts it out. -/
def runRender (connect : Connect m) (context : Context) (presentation : Presentation)
    (choice : TemplateChoice) (explain : Bool) : ExceptT Failure m Unit := do
  let template ← choice.load context.settings
  let registry := context.withSecrets (← context.registry)
  let renderer ← context.renderer connect (choice.shownNote context.settings)
  let report ← ExceptT.lift (renderer.report template (.ofVariables context.environment) registry)
  if explain then presentation.remark report.account
  presentation.putView report.view

end Command

end Placard
