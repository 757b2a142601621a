import Placard.Connection
import Placard.Json.Reader
import Placard.Json.Writer
import Placard.Pattern.Meaning
import Placard.Pattern.Reader
import Placard.Pattern.Search
import Placard.Pattern.Size

/-! The value that a connection takes out of a body of text. -/

namespace Placard

/-- Why a pattern is refused. -/
inductive PatternError
  | fault (pattern : String) (fault : Pattern.Fault)
  | tooLarge
deriving Repr, Inhabited

/-- The wording of a refused pattern. -/
def PatternError.message : PatternError → String
  | .fault pattern held => held.message pattern
  | .tooLarge => "Compiled regex exceeds size limit of " ++ toString Pattern.sizeLimit ++ " bytes."

/-- The program of a written pattern. -/
def Pattern.compile (written : String) : Except PatternError (Array Pattern.Instruction) :=
  let meant := do
    let tree ← Pattern.Written.parse written.toList
    tree.meaning .start
  match meant with
  | .error fault => .error (.fault written fault)
  | .ok (pattern, _) =>
    if Pattern.sizeLimit < pattern.size then .error .tooLarge else .ok pattern.program

/-- Why a body gives no value. -/
inductive ExtractionError
  | badJson (body : String) (fault : Json.Fault)
  | badPattern (error : PatternError)
  | noMatch
deriving Repr, Inhabited

/-- The wording of a failed extraction. -/
def ExtractionError.message : ExtractionError → String
  | badJson body fault => "JSON path error: " ++ fault.message body
  | badPattern error => "Regex error: " ++ error.message
  | noMatch => "No match"

namespace Extraction

/-- The text of a value: a string without quotation marks, nothing for null, else its JSON text. -/
def nodeText : Json → String
  | .string text => text
  | .null => ""
  | other => other.compact

/-- The text at the end of a path of keys with dots between them. -/
def alongPath (body path : String) : Except ExtractionError String :=
  match Json.parse body with
  | .error fault => .error (.badJson body fault)
  | .ok root =>
    match Json.descend? (Text.splitAt '.' path) root with
    | some node => .ok (nodeText node)
    | none => .error .noMatch

/-- The text of the first group of the first match, or of the match where that group is empty. -/
def byPattern (body pattern : String) : Except ExtractionError String :=
  match Pattern.compile pattern with
  | .error error => .error (.badPattern error)
  | .ok program =>
    match Pattern.search? program body.toList with
    | none => .error .noMatch
    | some found =>
      let group := (found.group? 1 body.toList).filter (!·.isEmpty)
      .ok (.ofList (group.getD (found.whole body.toList)))

end Extraction

/-- The value that a selector takes out of a body; a blank selector takes the whole body. -/
def extract (body : String) (grammar : Grammar) (selector : String) :
    Except ExtractionError String := do
  let value ←
    if Text.allBlank selector then pure body
    else match grammar with
      | .json => Extraction.alongPath body selector
      | .text => Extraction.byPattern body selector
  return Text.trim value

end Placard
