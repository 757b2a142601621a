import Placard.Settings

/-! Settings as a JSON record with all their fields, the ones that are not given included. -/

namespace Placard

/-- A target as a JSON value. -/
def TargetSettings.toJson (target : TargetSettings) : Json :=
  .object [
    ("width", .nat target.width.toNat),
    ("height", .nat target.height.toNat),
    ("preview_scale", .number (.float target.previewScale))]

/-- The settings of web requests as a JSON value. -/
def WebSettings.toJson (web : WebSettings) : Json :=
  .object [
    ("insecure", .bool web.insecure),
    ("ca_cert", .text? web.authority),
    ("user_agent", .text? web.userAgent)]

/-- Settings as a JSON value. -/
def Settings.toJson (settings : Settings) : Json :=
  .object [
    ("timeout_secs", .nat settings.timeoutSeconds.toNat),
    ("refresh_interval_minutes", .nat settings.refreshMinutes.toNat),
    ("template", .string settings.template),
    ("note", .text? settings.note),
    ("connections_file", .text? settings.connectionsFile),
    ("placement", settings.placement.toJson),
    ("target", settings.target.toJson),
    ("http", settings.web.toJson)]

end Placard
