import Placard.Connection
import Placard.Text.Base64
import Placard.Text.Utf8

/-! Credentials of a web request, and the header line that carries them. -/

namespace Placard

/-- Credentials, each with the secret that its kind needs. -/
inductive Credentials
  | none
  | basic (username password : String)
  | bearer (token : String)
deriving DecidableEq, Repr, Inhabited

namespace Credentials

/-- The credentials of a kind, made of a user name and a secret. -/
def ofParts (auth : Auth) (username secret : String) : Credentials :=
  match auth with
  | .none => none
  | .basic => basic username secret
  | .bearer => bearer secret

/-- The kind of credentials. -/
def auth : Credentials → Auth
  | none => .none
  | basic .. => .basic
  | bearer _ => .bearer

/-- The text that stands for a secret wherever credentials are shown. -/
private def covered : String := "SecretBox<str>([REDACTED])"

/-- Credentials without their secret. -/
def describe : Credentials → String
  | none => "None"
  | basic username _ =>
    "Basic \x7b username: " ++ Text.quoted username ++ ", password: " ++ covered ++ " \x7d"
  | bearer _ => "Bearer \x7b token: " ++ covered ++ " \x7d"

/-- A header line may hold every character but the controls other than the tab. -/
def fitsHeader (c : Char) : Bool :=
  c == '\t' || (0x20 ≤ c.toNat && c.toNat != 0x7F)

/-- The value of the header line before it is looked over, if there is to be one. -/
def rawHeader? : Credentials → Option String
  | none => .none
  | basic username password =>
    some ("Basic " ++ .ofList (Text.Base64.encode (Text.bytes (username ++ ":" ++ password).toList)))
  | bearer token => some ("Bearer " ++ token)

/-- The value of the header line, if there is to be one, or why there cannot be one. -/
def header (credentials : Credentials) : Except String (Option String) :=
  match credentials.rawHeader? with
  | .none => .ok .none
  | some value =>
    if value.toList.all fitsHeader then .ok (some value)
    else .error (credentials.auth.word ++ " header: failed to parse header value")

end Credentials

/-- The credentials of a connection. -/
def Connection.credentials (connection : Connection) : Credentials :=
  .ofParts connection.auth connection.username connection.secret

end Placard
