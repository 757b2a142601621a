import Placard.Text.Split

/-! Tokens in a text replaced by their values, in one pass from left to right. -/

namespace Placard.Template

/-- The longer of two entries whose tokens begin a text; of equal ones the later counts. -/
def longer (best entry : List Char × List Char) : List Char × List Char :=
  if entry.1.length < best.1.length then best else entry

/-- The entry of a table with the longest token that begins a text. -/
def longestAt? (table : List (List Char × List Char)) (text : List Char) :
    Option (List Char × List Char) :=
  match table.filter fun entry => !entry.1.isEmpty && (Text.dropPrefix? entry.1 text).isSome with
  | [] => none
  | first :: others => some (others.foldl longer first)

/-- Replaces tokens in a text; every token begins with a brace, and no value is looked at again. -/
def substituteChars (table : List (List Char × List Char)) (text : List Char) : List Char :=
  match text with
  | [] => []
  | c :: rest =>
    if c = '{' then
      match longestAt? table (c :: rest) with
      | some (token, value) => value ++ substituteChars table (rest.drop (token.length - 1))
      | none => c :: substituteChars table rest
    else c :: substituteChars table rest
termination_by text.length
decreasing_by all_goals simp; try omega

/-- Replaces the tokens of a table in a text by their values. -/
def substitute (table : List (String × String)) (text : String) : String :=
  .ofList (substituteChars (table.map fun (token, value) => (token.toList, value.toList)) text.toList)

end Placard.Template
