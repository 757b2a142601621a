import Placard.Text.Split

/-! Command lines as they are read: words with their quotes, pipes, lists, choices and loops. -/

namespace Placard.Shell

/-- What a redirection does with a stream. -/
inductive Direction
  | write
  | append
  | read
  | copy
deriving DecidableEq, Repr, Inhabited

mutual

/-- A part of a word; what is quoted is never split into several words. -/
inductive Part
  | text (value : String)
  | variable (name : String) (fallback : Option (List Part)) (quoted : Bool)
  | output (command : Command) (quoted : Bool)
  | sum (text : String)

/-- A command. -/
inductive Command
  | simple (assigned : List (String × List Part)) (words : List (List Part))
      (redirects : List (Nat × Direction × List Part))
  | pipeline (negated : Bool) (stages : List Command)
  | both (left right : Command)
  | either (left right : Command)
  | sequence (commands : List Command)
  | group (apart : Bool) (body : Command) (redirects : List (Nat × Direction × List Part))
  | branch (condition body : Command) (otherwise : Option Command)
  | loop (until_ : Bool) (condition body : Command)
  | each (name : String) (words : List (List Part)) (body : Command)

end

instance : Inhabited Part := ⟨.text ""⟩
instance : Inhabited Command := ⟨.sequence []⟩

/-- A word is a list of parts. -/
abbrev Word := List Part

/-- A redirection: the number of a stream, what is done with it, and a word. -/
abbrev Redirect := Nat × Direction × Word

/-! ### Reading -/

/-- The characters that end a word unless they are quoted. -/
def isMeta (c : Char) : Bool :=
  " \t\n;&|<>()".toList.contains c

/-- Blanks between words, and the rest of a line behind a hash. -/
def skipBlanks : List Char → List Char
  | ' ' :: rest => skipBlanks rest
  | '\t' :: rest => skipBlanks rest
  | '\\' :: '\n' :: rest => skipBlanks rest
  | '#' :: rest => rest.dropWhile (· != '\n')
  | other => other

/-- Blanks and line ends between commands; the fuel bounds the number of lines. -/
def skipLines (fuel : Nat) (text : List Char) : List Char :=
  match fuel, skipBlanks text with
  | fuel + 1, '\n' :: rest => skipLines fuel rest
  | _, other => other

/-- A character may stand in the name of a variable. -/
def isNameChar (c : Char) : Bool := c.isAlphanum || c == '_'

/-- The words that build commands. -/
def reserved : List String :=
  ["if", "then", "elif", "else", "fi", "while", "until", "do", "done", "for", "in", "!", "\x7b", "\x7d"]

/-- The bare word that comes next, if it is only letters. -/
def bareWord (text : List Char) : String :=
  let word := (skipBlanks text).takeWhile (!isMeta ·)
  .ofList word

/-- The rest behind a bare word. -/
def afterBare (word : String) (text : List Char) : List Char :=
  (skipBlanks text).drop word.length

/-- Adds a character to the text that is gathered. -/
private def flush (gathered : List Char) (parts : List Part) : List Part :=
  if gathered.isEmpty then parts else parts ++ [.text (.ofList gathered.reverse)]

/-- The text up to two parentheses that close a sum, and what follows them. -/
def readSum (depth : Nat) : List Char → Option (List Char × List Char)
  | [] => none
  | ')' :: rest =>
    match depth, rest with
    | 0, ')' :: after => some ([], after)
    | 0, _ => none
    | depth + 1, _ => (readSum depth rest).map fun (inner, after) => (')' :: inner, after)
  | c :: rest =>
    (readSum (if c == '(' then depth + 1 else depth) rest).map fun (inner, after) =>
      (c :: inner, after)

/-- The text up to the next backquote that is not escaped, and what follows it. -/
def readBackquoted : List Char → Option (List Char × List Char)
  | [] => none
  | '`' :: rest => some ([], rest)
  | '\\' :: c :: rest =>
    (readBackquoted rest).map fun (inner, after) =>
      if c == '`' || c == '\\' || c == '$' then (c :: inner, after) else ('\\' :: c :: inner, after)
  | c :: rest => (readBackquoted rest).map fun (inner, after) => (c :: inner, after)

mutual

/-- Reads the command between two backquotes, which may be empty. -/
def readOld (fuel : Nat) (quoted : Bool) (text : List Char) : Option (Part × List Char) :=
  match fuel with
  | 0 => none
  | fuel + 1 => do
    let (inner, after) ← readBackquoted text
    let (commands, rest) ← readListItems fuel inner
    if rest.isEmpty then some (.output (.sequence commands) quoted, after) else none

/-- Reads what a dollar sign stands for. -/
def readDollar (fuel : Nat) (quoted : Bool) (text : List Char) : Option (Part × List Char) :=
  match fuel with
  | 0 => none
  | fuel + 1 =>
    match text with
    | '(' :: rest =>
      let summed := match rest with
        | '(' :: inner => readSum 0 inner
        | _ => none
      match summed with
      | some (inner, after) => some (.sum (.ofList inner), after)
      | none => do
        let (command, after) ← readList fuel rest
        match skipLines after.length after with
        | ')' :: final => return (.output command quoted, final)
        | _ => none
    | '{' :: rest =>
      let name := rest.takeWhile fun c => isNameChar c || c == '?'
      match rest.drop name.length with
      | '}' :: after => some (.variable (.ofList name) none quoted, after)
      | ':' :: '-' :: after => do
        let (parts, final) ← readQuoted fuel '}' [] [] after
        return (.variable (.ofList name) (some parts) quoted, final)
      | _ => none
    | '?' :: rest => some (.variable "?" none quoted, rest)
    -- The shell itself has a name, and no arguments.
    | '0' :: rest => some (.text "sh", rest)
    | '#' :: rest => some (.text "0", rest)
    | '@' :: rest => some (.text "", rest)
    | '*' :: rest => some (.text "", rest)
    | c :: rest =>
      if isNameChar c then
        let name := (c :: rest).takeWhile isNameChar
        some (.variable (.ofList name) none quoted, (c :: rest).drop name.length)
      else some (.text "$", c :: rest)
    | [] => some (.text "$", [])

/-- Reads quoted parts up to a closing character. -/
def readQuoted (fuel : Nat) (closing : Char) (gathered : List Char) (parts : List Part)
    (text : List Char) : Option (List Part × List Char) :=
  match fuel with
  | 0 => none
  | fuel + 1 =>
    match text with
    | [] => none
    | '\\' :: c :: rest =>
      if c == '\n' then readQuoted fuel closing gathered parts rest
      else if "$`\"\\\x7d".toList.contains c then readQuoted fuel closing (c :: gathered) parts rest
      else readQuoted fuel closing (c :: '\\' :: gathered) parts rest
    | '`' :: rest => do
      let (part, after) ← readOld fuel true rest
      readQuoted fuel closing [] (flush gathered parts ++ [part]) after
    | '$' :: rest => do
      let (part, after) ← readDollar fuel true rest
      readQuoted fuel closing [] (flush gathered parts ++ [part]) after
    | c :: rest =>
      if c == closing then some (flush gathered parts, rest)
      else readQuoted fuel closing (c :: gathered) parts rest

/-- Reads a word up to the first character that ends it. -/
def readWord (fuel : Nat) (gathered : List Char) (parts : List Part) (text : List Char) :
    Option (Word × List Char) :=
  match fuel with
  | 0 => none
  | fuel + 1 =>
    match text with
    | [] => some (flush gathered parts, [])
    | '\\' :: '\n' :: rest => readWord fuel gathered parts rest
    | '\\' :: c :: rest => readWord fuel [] (flush gathered parts ++ [.text (.singleton c)]) rest
    | '\'' :: rest =>
      let inner := rest.takeWhile (· != '\'')
      match rest.drop inner.length with
      | [] => none
      | _ :: after => readWord fuel [] (flush gathered parts ++ [.text (.ofList inner)]) after
    | '"' :: rest => do
      let (inner, after) ← readQuoted fuel '"' [] [] rest
      readWord fuel [] (flush gathered parts ++ (.text "" :: inner)) after
    | '`' :: rest => do
      let (part, after) ← readOld fuel false rest
      readWord fuel [] (flush gathered parts ++ [part]) after
    | '$' :: rest => do
      let (part, after) ← readDollar fuel false rest
      readWord fuel [] (flush gathered parts ++ [part]) after
    | c :: rest =>
      if isMeta c then some (flush gathered parts, c :: rest)
      else readWord fuel (c :: gathered) parts rest

/-- Reads a redirection, if one comes next; a digit before it names the stream. -/
def readRedirect (fuel : Nat) (text : List Char) : Option (Option Redirect × List Char) :=
  match fuel with
  | 0 => none
  | fuel + 1 =>
    let (stream, rest) := match text with
      | c :: '>' :: more => if c.isDigit then (some (c.toNat - 48), '>' :: more) else (none, text)
      | c :: '<' :: more => if c.isDigit then (some (c.toNat - 48), '<' :: more) else (none, text)
      | _ => (none, text)
    let found : Option (Nat × Direction × List Char) := match rest with
      | '>' :: '>' :: more => some (stream.getD 1, .append, more)
      | '>' :: '&' :: more => some (stream.getD 1, .copy, more)
      | '>' :: more => some (stream.getD 1, .write, more)
      | '<' :: '&' :: more => some (stream.getD 0, .copy, more)
      | '<' :: more => some (stream.getD 0, .read, more)
      | _ => none
    match found with
    | none => some (none, text)
    | some (number, direction, more) => do
      let (target, after) ← readWord fuel [] [] (skipBlanks more)
      if target.isEmpty then none else return (some (number, direction, target), after)

/-- Reads redirections behind a command. -/
def readRedirects (fuel : Nat) (text : List Char) : Option (List Redirect × List Char) :=
  match fuel with
  | 0 => none
  | fuel + 1 => do
    match ← readRedirect fuel (skipBlanks text) with
    | (none, after) => return ([], after)
    | (some redirect, after) =>
      let (others, final) ← readRedirects fuel after
      return (redirect :: others, final)

/-- Reads the words and redirections of a simple command; assignments stand in front of its words. -/
def readSimple (fuel : Nat) (leading : Bool) (text : List Char) :
    Option (Command × List Char) :=
  match fuel with
  | 0 => none
  | fuel + 1 => do
    let start := skipBlanks text
    match ← readRedirect fuel start with
    | (some redirect, after) =>
      match ← readSimple fuel leading after with
      | (.simple assigned words redirects, final) =>
        return (.simple assigned words (redirect :: redirects), final)
      | _ => none
    | (none, _) =>
      let (word, after) ← readWord fuel [] [] start
      if word.isEmpty then return (.simple [] [] [], start)
      else
        let name := start.takeWhile isNameChar
        let assigns := leading && !name.isEmpty && !(name.head?.map Char.isDigit).getD true
          && (start.drop name.length).head? == some '='
        match ← readSimple fuel assigns after with
        | (.simple assigned words redirects, final) =>
          if assigns then
            let value := match word with
              | .text first :: others => .text (.ofList (first.toList.drop (name.length + 1))) :: others
              | _ => []
            return (.simple ((.ofList name, value) :: assigned) words redirects, final)
          else return (.simple [] (word :: words) redirects, final)
        | _ => none

/-- Reads words up to the end of their command. -/
def readWords (fuel : Nat) (text : List Char) : Option (List Word × List Char) :=
  match fuel with
  | 0 => none
  | fuel + 1 => do
    let (word, after) ← readWord fuel [] [] (skipBlanks text)
    if word.isEmpty then return ([], skipBlanks text)
    else
      let (others, final) ← readWords fuel after
      return (word :: others, final)

/-- Wants a reserved word next, and gives what follows it. -/
def expectWord (word : String) (text : List Char) : Option (List Char) :=
  let start := skipLines text.length text
  if bareWord start == word then some (afterBare word start) else none

/-- Reads what follows the condition of a choice. -/
def readBranch (fuel : Nat) (text : List Char) : Option (Command × List Char) :=
  match fuel with
  | 0 => none
  | fuel + 1 => do
    let (condition, afterCondition) ← readList fuel text
    let (body, afterBody) ← readList fuel (← expectWord "then" afterCondition)
    let start := skipLines afterBody.length afterBody
    match bareWord start with
    | "fi" => return (.branch condition body none, afterBare "fi" start)
    | "elif" => do
      let (otherwise, final) ← readBranch fuel (afterBare "elif" start)
      return (.branch condition body (some otherwise), final)
    | "else" => do
      let (otherwise, afterElse) ← readList fuel (afterBare "else" start)
      return (.branch condition body (some otherwise), ← expectWord "fi" afterElse)
    | _ => none

/-- Reads one command. -/
def readCommand (fuel : Nat) (text : List Char) : Option (Command × List Char) :=
  match fuel with
  | 0 => none
  | fuel + 1 =>
    let start := skipBlanks text
    let grouped (apart : Bool) (body : Command) (after : List Char) : Option (Command × List Char) := do
      let (redirects, final) ← readRedirects fuel after
      return (.group apart body redirects, final)
    match start with
    | '(' :: rest => do
      let (body, after) ← readList fuel rest
      match skipLines after.length after with
      | ')' :: final => grouped true body final
      | _ => none
    | _ =>
      let word := bareWord start
      let rest := afterBare word start
      match word with
      | "\x7b" => do
        let (body, after) ← readList fuel rest
        grouped false body (← expectWord "\x7d" after)
      | "if" => do
        let (command, after) ← readBranch fuel rest
        grouped false command after
      | "while" => do
        let (condition, afterCondition) ← readList fuel rest
        let (body, after) ← readList fuel (← expectWord "do" afterCondition)
        grouped false (.loop false condition body) (← expectWord "done" after)
      | "until" => do
        let (condition, afterCondition) ← readList fuel rest
        let (body, after) ← readList fuel (← expectWord "do" afterCondition)
        grouped false (.loop true condition body) (← expectWord "done" after)
      | "for" => do
        let name := bareWord rest
        let (words, afterWords) ← readWords fuel (← expectWord "in" (afterBare name rest))
        let separated := match afterWords with
          | ';' :: more => more
          | other => other
        let (body, after) ← readList fuel (← expectWord "do" separated)
        grouped false (.each name words body) (← expectWord "done" after)
      | _ =>
        if reserved.contains word then none
        else do
          let (command, after) ← readSimple fuel true start
          match command with
          | .simple [] [] [] => none
          | _ =>
            -- A parenthesis behind a word opens no group.
            if after.head? == some '(' then none else return (command, after)

/-- Reads commands joined by pipes. -/
def readPipeline (fuel : Nat) (text : List Char) : Option (List Command × List Char) :=
  match fuel with
  | 0 => none
  | fuel + 1 => do
    let (first, after) ← readCommand fuel text
    match skipBlanks after with
    | '|' :: '|' :: rest => return ([first], '|' :: '|' :: rest)
    | '|' :: rest =>
      let (others, final) ← readPipeline fuel (skipLines rest.length rest)
      return (first :: others, final)
    | other => return ([first], other)

/-- Reads a pipeline that may be negated. -/
def readStage (fuel : Nat) (text : List Char) : Option (Command × List Char) :=
  match fuel with
  | 0 => none
  | fuel + 1 =>
    if bareWord text == "!" then do
      let (stages, after) ← readPipeline fuel (afterBare "!" text)
      return (.pipeline true stages, after)
    else do
      let (stages, after) ← readPipeline fuel text
      return (.pipeline false stages, after)

/-- Reads what follows a pipeline in a chain of conditions. -/
def readChain (fuel : Nat) (left : Command) (text : List Char) : Option (Command × List Char) :=
  match fuel with
  | 0 => none
  | fuel + 1 =>
    match skipBlanks text with
    | '&' :: '&' :: rest => do
      let (right, after) ← readStage fuel (skipLines rest.length rest)
      readChain fuel (.both left right) after
    | '|' :: '|' :: rest => do
      let (right, after) ← readStage fuel (skipLines rest.length rest)
      readChain fuel (.either left right) after
    | other => some (left, other)

/-- Reads the commands of a list up to what ends it. -/
def readListItems (fuel : Nat) (text : List Char) : Option (List Command × List Char) :=
  match fuel with
  | 0 => none
  | fuel + 1 =>
    let start := skipLines text.length text
    let word := bareWord start
    let ends := start.isEmpty || start.head? == some ')'
      || ["then", "elif", "else", "fi", "do", "done", "\x7d"].contains word
    if ends then some ([], start)
    else do
      let (first, afterFirst) ← readStage fuel start
      let (command, after) ← readChain fuel first afterFirst
      match skipBlanks after with
      | ';' :: ';' :: _ => none
      | ';' :: rest =>
        let (others, final) ← readListItems fuel rest
        return (command :: others, final)
      | '&' :: rest =>
        let (others, final) ← readListItems fuel rest
        return (command :: others, final)
      | '\n' :: rest =>
        let (others, final) ← readListItems fuel rest
        return (command :: others, final)
      | other => return ([command], other)

/-- Reads a list of commands, of which there has to be one at least. -/
def readList (fuel : Nat) (text : List Char) : Option (Command × List Char) :=
  match fuel with
  | 0 => none
  | fuel + 1 => do
    let (commands, after) ← readListItems fuel text
    if commands.isEmpty then none else return (.sequence commands, after)

end

/-- The commands of a whole line; a text without words is an empty list. -/
def parse (text : String) : Option Command := do
  let letters := text.toList
  let (commands, rest) ← readListItems (12 * letters.length + 12) letters
  if rest.isEmpty then some (.sequence commands) else none

end Placard.Shell
