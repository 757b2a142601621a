import Placard.Command.Context
import Placard.Command.View
import Placard.Text.Grid

/-! Listing, showing, changing and testing connections; a stored secret is never put out. -/

namespace Placard

/-- A connection in words, with the kind of its source and nothing of its secret. -/
structure ConnectionSummary where
  name : String
  url : String
  kind : SourceKind
  method : Method
  auth : Auth
  username : String
  hasSecret : Bool
  grammar : Grammar
  selector : String
deriving DecidableEq, Repr, Inhabited

/-- The summary of a connection. -/
def Connection.summary (connection : Connection) (kind : SourceKind) : ConnectionSummary where
  name := connection.name
  url := connection.url
  kind := kind
  method := connection.method
  auth := connection.auth
  username := connection.username
  hasSecret := connection.secret != ""
  grammar := connection.grammar
  selector := connection.selector

namespace ConnectionSummary

/-- How the value is taken from the body. -/
def extraction (summary : ConnectionSummary) : String :=
  if Text.allBlank summary.selector then "raw"
  else summary.grammar.word ++ " " ++ summary.selector

/-- A summary as a JSON value. -/
def toJson (summary : ConnectionSummary) : Json :=
  .object [
    ("name", .string summary.name),
    ("url", .string summary.url),
    ("kind", .string summary.kind.word),
    ("method", .string summary.method.word),
    ("auth_type", .string summary.auth.word),
    ("username", .string summary.username),
    ("has_secret", .bool summary.hasSecret),
    ("content_type", .string summary.grammar.word),
    ("selector", .string summary.selector)]

/-- The columns of a list of summaries. -/
def columns : List String := ["Name", "Kind", "Location", "Method", "Auth", "Extract"]

/-- A summary as a row of a grid; only web requests have a verb. -/
def row (summary : ConnectionSummary) : List String :=
  [summary.name, summary.kind.word, summary.url,
    if summary.kind == .http then summary.method.word else "-", summary.auth.word,
    summary.extraction]

/-- Where the secret comes from. -/
def secretWord (summary : ConnectionSummary) : String :=
  if summary.auth == .none then "-"
  else if summary.hasSecret then "(inline)"
  else "(env / keyring)"

/-- A summary for the eye. -/
def text (summary : ConnectionSummary) : String :=
  Text.joinWith "\n" [
    "Name:     " ++ summary.name,
    "Tag:      \x7bAPI:" ++ summary.name ++ "\x7d",
    "Kind:     " ++ summary.kind.word,
    "Location: " ++ summary.url,
    "Method:   " ++ summary.method.word,
    "Auth:     " ++ summary.auth.word,
    "Username: " ++ (if summary.username == "" then "-" else summary.username),
    "Secret:   " ++ summary.secretWord,
    "Extract:  " ++ summary.extraction]

/-- A summary as a result. -/
def view (summary : ConnectionSummary) : View where
  json := summary.toJson
  table := summary.text
  plain := summary.name

/-- Summaries as a result. -/
def listView (summaries : List ConnectionSummary) : View where
  json := .array (summaries.map toJson)
  table := Text.Grid.render columns (summaries.map row)
  plain := Text.joinWith "\n" (summaries.map (·.name))

end ConnectionSummary

namespace Inspection

/-- A connection that was looked at, as a JSON value; a detail is left out where there is none. -/
def toJson (inspection : Inspection) (name : String) : Json :=
  let detail := match inspection.resolution.detail? with
    | some detail => [("detail", Json.string detail)]
    | none => []
  .object ([
    ("connection", .string name),
    ("kind", .string inspection.kind.word),
    ("status", .string inspection.resolution.status),
    ("value", .string inspection.resolution.text)] ++ detail ++ [("raw", .text? inspection.body)])

/-- A connection that was looked at, for the eye. -/
def text (inspection : Inspection) (name : String) (presentation : Presentation) : String :=
  let status := inspection.resolution.status
  let detail := match inspection.resolution.detail? with
    | some detail => ["Detail:     " ++ detail]
    | none => []
  let raw := match inspection.body with
    | some body => [presentation.dim "── Raw response ──", Text.trimEnd body]
    | none => []
  Text.joinWith "\n" ([
    "Connection: " ++ name,
    "Kind:       " ++ inspection.kind.word,
    "Status:     " ++ presentation.statusWord status (status == "ok"),
    "Value:      " ++ inspection.resolution.text] ++ detail ++ raw)

/-- A connection that was looked at, as a result. -/
def view (inspection : Inspection) (name : String) (presentation : Presentation) : View where
  json := inspection.toJson name
  table := inspection.text name presentation
  plain := inspection.resolution.text

end Inspection

/-- A connection with changes made to it; a path or a pattern chooses the grammar too. -/
def ConnectionPatch.apply (patch : ConnectionPatch) (connection : Connection) : Connection :=
  let renamed := { connection with
    name := patch.name.getD connection.name
    url := patch.url.getD connection.url
    method := patch.method.getD connection.method
    auth := patch.auth.getD connection.auth
    username := patch.username.getD connection.username
    secret := patch.secret.getD connection.secret }
  let pathed := match patch.jsonPath with
    | some path => renamed.withJsonPath path
    | none => renamed
  match patch.pattern with
  | some pattern => pathed.withPattern pattern
  | none => pathed

namespace Command

variable {m : Type → Type} [Monad m] [Machine m]

/-- Looks at the disk for the summary of a connection. -/
def summarize (connection : Connection) : m ConnectionSummary := do
  return connection.summary (← connection.source).kind

/-- The connection of a name, which must be there. -/
def find (registry : Registry) (name : String) : ExceptT Failure m Connection :=
  match registry.get? name with
  | some connection => return connection
  | none => throw (.connectionNotFound name)

/-- The changed registry, unless the change was refused. -/
def changed {α : Type} (result : Except RegistryError α) : ExceptT Failure m α :=
  match result with
  | .ok value => return value
  | .error error => throw (.ofRegistry error)

/-- Lists the connections; an empty list has no grid but a remark. -/
def runList (context : Context) (presentation : Presentation) : ExceptT Failure m Unit := do
  let registry ← context.registry
  if registry.toList.isEmpty && presentation.format == .table then
    presentation.remark
      "No connections. Add one with: wallinfo connections add <name> --url <location>"
  else
    let summaries ← registry.toList.mapM summarize
    presentation.putView (ConnectionSummary.listView summaries)

/-- Shows one connection. -/
def runView (context : Context) (presentation : Presentation) (name : String) :
    ExceptT Failure m Unit := do
  let connection ← find (← context.registry) name
  let summary ← summarize connection
  presentation.putView summary.view

/-- Adds a connection. -/
def runAdd (context : Context) (presentation : Presentation) (connection : Connection) :
    ExceptT Failure m Unit := do
  let registry ← changed ((← context.registry).add connection)
  context.save registry
  presentation.remark ("✓ Added connection '" ++ connection.name ++ "'. Use " ++ connection.tag ++
    " in templates.")

/-- Changes a connection. -/
def runUpdate (context : Context) (presentation : Presentation) (name : String)
    (patch : ConnectionPatch) : ExceptT Failure m Unit := do
  let registry ← context.registry
  let connection := patch.apply (← find registry name)
  context.save (← changed (registry.update name connection))
  let renamed := if connection.name == name then "" else " (now '" ++ connection.name ++ "')"
  presentation.remark ("✓ Updated connection '" ++ name ++ "'" ++ renamed)

/-- Deletes a connection, which has to be confirmed beforehand. -/
def runDelete (context : Context) (presentation : Presentation) (name : String)
    (confirmed : Bool) : ExceptT Failure m Unit := do
  let registry ← context.registry
  discard (find registry name)
  if !confirmed then throw (.unconfirmed "connections delete")
  let (_, kept) ← changed (registry.remove name)
  context.save kept
  presentation.remark ("✓ Deleted connection '" ++ name ++ "'")

/-- Looks at one connection by itself, with the secret that a variable holds for it. -/
def runTest (connect : Connect m) (context : Context) (presentation : Presentation)
    (name : String) : ExceptT Failure m Unit := do
  let connection ← find (← context.registry) name
  let renderer ← context.renderer connect none
  let ready := connection.filled (secretAmong context.environment)
  let inspection ← ExceptT.lift (ready.inspect renderer.fetch renderer.budget)
  presentation.putView (inspection.view name presentation)

/-- Asks for the secret of a connection; without a terminal nobody answers. -/
def runSetSecret (context : Context) (name : String) : ExceptT Failure m Unit := do
  let connection ← find (← context.registry) name
  if connection.auth == .none then
    Machine.tell ("Note: '" ++ name ++
      "' uses no authentication; the secret is unused until auth is set.\n")
  throw (.invalid "interactive" "prompt failed: No such device or address (os error 6)")

/-- Runs a command on connections. -/
def runConnections (connect : Connect m) (context : Context) (presentation : Presentation) :
    ConnectionCommand → ExceptT Failure m Unit
  | .list => runList context presentation
  | .view name => runView context presentation name
  | .add connection => runAdd context presentation connection
  | .update name patch => runUpdate context presentation name patch
  | .delete name confirmed => runDelete context presentation name confirmed
  | .test name => runTest connect context presentation name
  | .setSecret name => runSetSecret context name

end Command

end Placard
