import Placard.Calendar
import Placard.Command.Context
import Placard.Command.View
import Placard.Refresh.Job

/-! Filling a template again and again, with each text put out or kept in a file. -/

namespace Placard

namespace Outcome

/-- A filled template and its time as a JSON value. -/
def toJson (outcome : Outcome) : Json :=
  .object [("text", .string outcome.text), ("rendered_at", .string outcome.renderedAt.zulu)]

/-- A filled template as one document of a stream. -/
def document (outcome : Outcome) (presentation : Presentation) : String :=
  match presentation.format with
  | .table => presentation.dim ("── " ++ outcome.renderedAt.stamp ++ " ──") ++ "\n" ++ outcome.text
  | .plain => outcome.text
  -- A document of several lines would break the stream.
  | .json | .jsonCompact => outcome.toJson.compact
  | .yaml => "---\n" ++ Yaml.ofJson outcome.toJson

end Outcome

namespace WatchChoice

/-- The rounds of a watch: at least one, and as many as a word can count where no number is given. -/
def rounds (choice : WatchChoice) : Nat :=
  max 1 (choice.count.getD largestWord)

end WatchChoice

namespace Command

variable {m : Type → Type} [Monad m] [Machine m]

/-- Puts out one filled template, or keeps it in a file; gives a failure that ends the watch. -/
def emit (presentation : Presentation) (out : Option String) (outcome : Outcome) :
    m (Option Failure) :=
  match out with
  | some path => do
    match ← Machine.writeText path outcome.text with
    | .ok _ => return none
    | .error fault => return some (.io fault.message)
  | none => do
    presentation.put (outcome.document presentation)
    return none

/-- The connections as they are now, with the secrets that variables hold, if they can be read. -/
def reload (context : Context) : m (Option Registry) := do
  match ← Registry.load context.connectionsPath with
  | .ok registry => return some (context.withSecrets registry)
  | .error _ => return none

/-- Fills a template again and again until a number of rounds is over or one of them fails. -/
def runWatch (connect : Connect m) (context : Context) (presentation : Presentation)
    (choice : WatchChoice) : ExceptT Failure m Unit := do
  let template ← choice.template.load context.settings
  let registry := context.withSecrets (← context.registry)
  let renderer ← context.renderer connect (choice.template.shownNote context.settings)
  let interval := choice.interval.getD context.settings.refreshInterval
  let refresh := Refresh.make renderer template interval (return .ofVariables context.environment)
    (some (reload context))
  let (failure, job) ← ExceptT.lift
    (refresh.rounds (emit presentation choice.out) choice.rounds (.spawn (.ofRegistry registry)))
  let _ ← ExceptT.lift (refresh.proceed job.cancel)
  match failure with
  | some failure => throw failure
  | none => return ()

end Command

end Placard
