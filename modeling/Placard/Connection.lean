import Placard.Text.Blank
import Placard.Text.Quoted
import Placard.Text.Split

/-! A named source of live text: where it is read, how one is let in, and which value is taken. -/

namespace Placard

/-- The verb of a web request. -/
inductive Method
  | get
  | post
deriving DecidableEq, Repr, Inhabited

/-- How a web request is authorised. -/
inductive Auth
  | none
  | basic
  | bearer
deriving DecidableEq, Repr, Inhabited

/-- How a value is found in a body: by a path of keys, or by a pattern. -/
inductive Grammar
  | json
  | text
deriving DecidableEq, Repr, Inhabited

/-- The word for a verb. -/
def Method.word : Method → String
  | get => "GET"
  | post => "POST"

/-- The name of a verb in a description. -/
def Method.name : Method → String
  | get => "Get"
  | post => "Post"

/-- The word for a kind of authorisation. -/
def Auth.word : Auth → String
  | none => "None"
  | basic => "Basic"
  | bearer => "Bearer"

/-- The word for a grammar. -/
def Grammar.word : Grammar → String
  | json => "json"
  | text => "text"

/-- The name of a grammar in a description. -/
def Grammar.name : Grammar → String
  | json => "Json"
  | text => "Text"

/-- The words for a verb that a file may hold. -/
def Method.spellings : List (String × Method) :=
  [("GET", get), ("Get", get), ("get", get), ("POST", post), ("Post", post), ("post", post)]

/-- The words for a kind of authorisation that a file may hold. -/
def Auth.spellings : List (String × Auth) :=
  [("None", none), ("Basic", basic), ("Bearer", bearer)]

/-- The words for a grammar that a file may hold. -/
def Grammar.spellings : List (String × Grammar) :=
  [("JSON", json), ("Json", json), ("json", json), ("TEXT", text), ("Text", text), ("text", text)]

/-- The choice whose word is given, in letters of either case. -/
def choice? {α : Type} (word : α → String) (choices : List α) (given : String) : Option α :=
  choices.find? fun choice => Text.sameIgnoringCase (word choice).toList given.toList

/-- The verb that a word names. -/
def Method.ofWord? : String → Option Method := choice? word [get, post]

/-- The kind of authorisation that a word names. -/
def Auth.ofWord? : String → Option Auth := choice? word [none, basic, bearer]

/-- The grammar that a word names. -/
def Grammar.ofWord? : String → Option Grammar := choice? word [json, text]

/-- The wording for a word that names none of the choices. -/
def unknownChoice : String := "Matching variant not found"

/-- A named connection to a source of text. -/
structure Connection where
  name : String := ""
  url : String := ""
  method : Method := .get
  auth : Auth := .none
  username : String := ""
  secret : String := ""
  jsonPath : String := ""
  grammar : Grammar := .json
  pattern : String := ""
deriving DecidableEq, Repr, Inhabited

namespace Connection

/-- The text that stands for a connection in a template. -/
def tag (connection : Connection) : String :=
  "\x7bAPI:" ++ connection.name ++ "\x7d"

/-- The path or the pattern, whichever the grammar asks for. -/
def selector (connection : Connection) : String :=
  match connection.grammar with
  | .json => connection.jsonPath
  | .text => connection.pattern

/-- The secret of a connection has to come from elsewhere. -/
def needsSecret (connection : Connection) : Bool :=
  connection.auth != .none && connection.secret == ""

/-- A connection that takes its value along a path of keys. -/
def withJsonPath (connection : Connection) (path : String) : Connection :=
  { connection with grammar := .json, jsonPath := path }

/-- A connection that takes its value by a pattern. -/
def withPattern (connection : Connection) (pattern : String) : Connection :=
  { connection with grammar := .text, pattern := pattern }

/-- A connection with a user name and a password. -/
def withBasic (connection : Connection) (username password : String) : Connection :=
  { connection with auth := .basic, username := username, secret := password }

/-- A connection with a token. -/
def withBearer (connection : Connection) (token : String) : Connection :=
  { connection with auth := .bearer, secret := token }

/-- A connection in full, with nothing of its secret but whether there is one. -/
def describe (connection : Connection) : String :=
  "Connection \x7b name: " ++ Text.quoted connection.name ++
    ", url: " ++ Text.quoted connection.url ++
    ", method: " ++ connection.method.name ++
    ", auth_type: " ++ connection.auth.word ++
    ", username: " ++ Text.quoted connection.username ++
    ", secret: " ++ Text.quoted (if connection.secret == "" then "" else "****") ++
    ", json_path: " ++ Text.quoted connection.jsonPath ++
    ", content_type: " ++ connection.grammar.name ++
    ", regex_pattern: " ++ Text.quoted connection.pattern ++ " \x7d"

end Connection

end Placard
