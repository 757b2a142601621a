import Placard.Settings
import Placard.Toml.Writer

/-! Settings as the text of a settings file. -/

namespace Placard.Settings

/-- The largest whole number that a settings file can hold. -/
def largestWritten : Nat := 0x7FFF_FFFF_FFFF_FFFF

/-- All whole numbers of the settings can be written. -/
def writable (settings : Settings) : Bool :=
  settings.timeoutSeconds.toNat ≤ largestWritten && settings.refreshMinutes.toNat ≤ largestWritten

/-- The line of a text, where there is one. -/
def lineOf? (key : String) : Option String → String
  | some value => Toml.line key (Toml.writeText value)
  | none => ""

/-- The text of a settings file with these settings; what is absent has no line.

Nothing is answered when a number is too large to be written. -/
def write? (settings : Settings) : Option String :=
  if settings.writable then some <|
    Toml.line "timeout_secs" (toString settings.timeoutSeconds) ++
    Toml.line "refresh_interval_minutes" (toString settings.refreshMinutes) ++
    Toml.line "template" (Toml.writeText settings.template) ++
    lineOf? "note" settings.note ++
    lineOf? "connections_file" settings.connectionsFile ++
    Toml.header "placement" ++
    Toml.line "left" (toString settings.placement.left) ++
    Toml.line "top" (toString settings.placement.top) ++
    Toml.line "width" (toString settings.placement.width) ++
    Toml.line "height" (toString settings.placement.height) ++
    Toml.header "target" ++
    Toml.line "width" (toString settings.target.width) ++
    Toml.line "height" (toString settings.target.height) ++
    Toml.line "preview_scale" (Toml.writeFloat settings.target.previewScale) ++
    Toml.header "http" ++
    Toml.line "insecure" (toString settings.web.insecure) ++
    lineOf? "ca_cert" settings.web.authority ++
    lineOf? "user_agent" settings.web.userAgent
  else none

end Placard.Settings
