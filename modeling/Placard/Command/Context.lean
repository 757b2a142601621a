import Placard.Command.Failure
import Placard.Command.Invocation
import Placard.Registry.Secret
import Placard.Report
import Placard.Settings.Store

/-! What commands work on: the settings and connections that a command line leads to. -/

namespace Placard

/-- The path of the settings file when no other is given. -/
def usualSettingsPath (environment : List (String × String)) : String :=
  let home := (environment.lookup "HOME").getD "."
  let above := match (environment.lookup "XDG_CONFIG_HOME").filter Path.isAbsolute with
    | some directory => directory
    | none => Path.join home ".config"
  Path.join above "wallinfo/config.toml"

/-- The path of the settings file that a command line leads to. -/
def Sources.settingsPath (sources : Sources) (environment : List (String × String)) : String :=
  sources.settings.getD (usualSettingsPath environment)

/-- The path of the file of connections that a command line leads to. -/
def Sources.connectionsPath (sources : Sources) (settings : Settings) (settingsPath : String) :
    String :=
  sources.connections.getD (settings.connectionsPath settingsPath)

/-- The time that a source may take: what the command line gives, or else the settings. -/
def Sources.budget (sources : Sources) (settings : Settings) : Duration :=
  match sources.timeout with
  | some text => .ofSeconds (readTimeout text)
  | none => settings.timeout

/-- The secret that a variable holds for a connection of a name. -/
def secretAmong (environment : List (String × String)) (name : String) : Option String :=
  environment.lookup (secretVariable name)

/-- What the commands that need settings work on. -/
structure Context where
  environment : List (String × String)
  settingsPath : String
  settings : Settings
  connectionsPath : String
  budget : Duration
deriving Repr, Inhabited

/-- An action whose error becomes a failure. -/
def orFail {m : Type → Type} [Monad m] {ε α : Type} (failure : ε → Failure)
    (action : m (Except ε α)) : ExceptT Failure m α :=
  ExceptT.mk do return (← action).mapError failure

namespace Context

variable {m : Type → Type} [Monad m] [Machine m]

/-- Loads what a command works on. -/
def load (sources : Sources) : ExceptT Failure m Context := do
  let environment ← Machine.environment
  let settingsPath := sources.settingsPath environment
  let settings ← orFail (Failure.ofStore (usualSettingsPath environment)) (Settings.load settingsPath)
  return {
    environment, settingsPath, settings
    connectionsPath := sources.connectionsPath settings settingsPath
    budget := sources.budget settings }

/-- What trouble with a file fails with. -/
def storeFailure (context : Context) : StoreError → Failure :=
  Failure.ofStore (usualSettingsPath context.environment)

/-- The connections in their file. -/
def registry (context : Context) : ExceptT Failure m Registry :=
  orFail context.storeFailure (Registry.load context.connectionsPath)

/-- Puts connections into their file. -/
def save (context : Context) (registry : Registry) : ExceptT Failure m Unit :=
  orFail context.storeFailure (registry.save context.connectionsPath)

/-- A registry with the secrets that variables hold for it. -/
def withSecrets (context : Context) (registry : Registry) : Registry :=
  (registry.fill (secretAmong context.environment)).1

/-- The way to fill templates, with a note. -/
def renderer (context : Context) (connect : Connect m) (note : Option String) :
    ExceptT Failure m (Renderer m) := do
  let fetch ← orFail Failure.ofSource (connect context.settings.transport)
  return ⟨fetch, context.budget, note⟩

end Context

namespace TemplateChoice

variable {m : Type → Type} [Monad m] [Machine m]

/-- What an unreadable template file fails with. -/
def unreadable (path : String) (fault : FileFault) : Failure :=
  .invalid "template-file" ("cannot read " ++ path ++ ": " ++ fault.message)

/-- The template: a text, a file without the marks at its start, or the one of the settings. -/
def load (choice : TemplateChoice) (settings : Settings) : ExceptT Failure m String :=
  match choice.text, choice.file with
  | some text, _ => return text
  | none, some path => do
    let text ← orFail (unreadable path) (Machine.readText path)
    return .ofList (text.toList.dropWhile (· == '\uFEFF'))
  | none, none => return settings.template

/-- The note: what is given, or else that of the settings. -/
def shownNote (choice : TemplateChoice) (settings : Settings) : Option String :=
  choice.note.orElse fun _ => settings.shownNote

end TemplateChoice

end Placard
