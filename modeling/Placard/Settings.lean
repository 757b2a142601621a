import Placard.Decimal.Reading
import Placard.Duration
import Placard.Machine.Path
import Placard.Placement
import Placard.Source.Transport
import Placard.Text.Blank

/-! The settings of the program: what they are when nothing is given, and what follows from them. -/

namespace Placard

/-- The seconds that a source may take when nothing else is given. -/
def usualTimeout : Nat := 5

/-- The seconds that a text gives, or the usual ones if it gives no positive whole number. -/
def readTimeout (text : String) : Nat :=
  match (Decimal.natural? largestWord (Text.inner text.toList)).filter (0 < ·) with
  | some seconds => seconds
  | none => usualTimeout

/-- The full-size surface that the text is put onto, and the size of its preview. -/
structure TargetSettings where
  width : UInt32 := 1920
  height : UInt32 := 1080
  previewScale : Float := usualScale
deriving BEq, Repr, Inhabited

/-- The settings of web requests. -/
structure WebSettings where
  insecure : Bool := false
  authority : Option String := none
  userAgent : Option String := none
deriving DecidableEq, Repr, Inhabited

/-- The template that is filled when no other is given. -/
def usualTemplate : String :=
  "Host: \x7bhostname\x7d\nUser: \x7buser\x7d\nIP: \x7bip\x7d\nOS: \x7bos\x7d\nCores: \x7bcores\x7d"

/-- The minutes between two renders when nothing else is given. -/
def usualInterval : UInt64 := 30

/-- The name under which requests are sent when no other is given. -/
def usualUserAgent : String := "wallinfo/0.1.0"

/-- The file of connections when no other is given. -/
def usualConnectionsFile : String := "connections.json"

/-- The settings of the program. -/
structure Settings where
  timeoutSeconds : UInt64 := usualTimeout.toUInt64
  refreshMinutes : UInt64 := usualInterval
  template : String := usualTemplate
  note : Option String := none
  connectionsFile : Option String := none
  placement : Block := .usual
  target : TargetSettings := {}
  web : WebSettings := {}
deriving BEq, Repr, Inhabited

namespace Settings

/-- The settings when nothing is given. -/
def usual : Settings := {}

/-- The time that a source may take; zero stands for the usual time. -/
def timeout (settings : Settings) : Duration :=
  .ofSeconds (if settings.timeoutSeconds == 0 then usualTimeout else settings.timeoutSeconds.toNat)

/-- The time between two renders, which stops at the largest number of seconds. -/
def refreshInterval (settings : Settings) : Duration :=
  .ofSeconds (min (settings.refreshMinutes.toNat * 60) largestWord)

/-- The note, unless it is blank. -/
def shownNote (settings : Settings) : Option String :=
  settings.note.filter fun note => !Text.allBlank note

/-- The path of the file of connections, read from the directory of the settings file. -/
def connectionsPath (settings : Settings) (settingsPath : String) : String :=
  let directory := (Path.parent? settingsPath).getD "."
  Path.join directory (settings.connectionsFile.getD usualConnectionsFile)

/-- How web requests are sent. -/
def transport (settings : Settings) : Transport :=
  let trust : Trust :=
    if settings.web.insecure then .anyone
    else match settings.web.authority with
      | some path => .authority path
      | none => .system
  ⟨trust, settings.web.userAgent.getD usualUserAgent⟩

end Settings

end Placard
