import Placard.Command.Context
import Placard.Command.View
import Placard.Settings.Record

/-! Showing the settings, the paths of the files, and writing new settings.

These commands work even where the settings file is broken. -/

namespace Placard

/-- The paths of the files, and whether something stands there. -/
structure FilePaths where
  settings : String
  settingsThere : Bool
  connections : String
  connectionsThere : Bool
deriving DecidableEq, Repr, Inhabited

/-- The paths of the files as a result. -/
def FilePaths.view (paths : FilePaths) : View where
  json := .object [
    ("config", .string paths.settings),
    ("config_exists", .bool paths.settingsThere),
    ("connections", .string paths.connections),
    ("connections_exists", .bool paths.connectionsThere)]
  table := "Settings:    " ++ paths.settings ++ "\nConnections: " ++ paths.connections
  plain := paths.settings ++ "\n" ++ paths.connections

/-- Settings as a result. -/
def Settings.view (settings : Settings) (path : String) : View where
  json := settings.toJson
  table := settings.write?.getD ("# unrenderable: " ++ StoreError.unwritableReason)
  plain := path

namespace Command

variable {m : Type → Type} [Monad m] [Machine m]

/-- Shows the settings. -/
def runConfigView (sources : Sources) (presentation : Presentation) : ExceptT Failure m Unit := do
  let context ← Context.load sources
  presentation.putView (context.settings.view context.settingsPath)

/-- Shows the paths of the files; settings that cannot be loaded count as the usual ones. -/
def runConfigPaths (sources : Sources) (presentation : Presentation) : ExceptT Failure m Unit := do
  let settingsPath := sources.settingsPath (← Machine.environment)
  let settings := match ← Settings.load settingsPath with
    | .ok settings => settings
    | .error _ => .usual
  let connectionsPath := sources.connectionsPath settings settingsPath
  let settingsThere ← Machine.isThere settingsPath
  let connectionsThere ← Machine.isThere connectionsPath
  presentation.putView
    (FilePaths.mk settingsPath settingsThere connectionsPath connectionsThere).view

/-- Writes the usual settings, and an empty file of connections where nothing stands yet. -/
def runConfigInit (sources : Sources) (presentation : Presentation) (force : Bool) :
    ExceptT Failure m Unit := do
  let environment ← Machine.environment
  let settingsPath := sources.settingsPath environment
  if (← Machine.isThere settingsPath) && !force then throw (.settingsExist settingsPath)
  let failure := Failure.ofStore (usualSettingsPath environment)
  orFail failure (Settings.usual.save settingsPath)
  let connectionsPath := sources.connectionsPath .usual settingsPath
  if !(← Machine.isThere connectionsPath) then
    orFail failure (Registry.empty.save connectionsPath)
  presentation.remark ("Settings written to " ++ settingsPath)
  presentation.remark ("Connections file:   " ++ connectionsPath)

/-- Runs a command on the settings. -/
def runConfig (sources : Sources) (presentation : Presentation) :
    ConfigCommand → ExceptT Failure m Unit
  | .view => runConfigView sources presentation
  | .paths => runConfigPaths sources presentation
  | .init force => runConfigInit sources presentation force

end Command

end Placard
