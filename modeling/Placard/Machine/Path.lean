import Placard.Text.Split

/-! Path texts: their parts, their parents, and one path under another. -/

namespace Placard.Path

/-- A path is absolute when it starts at the root. -/
def isAbsolute (path : String) : Bool :=
  path.toList.head? == some '/'

/-- The names on a path in order; empty names and single dots stand for the place before them. -/
def names (path : String) : List String :=
  (Text.splitAt '/' path).filter fun name => name != "" && name != "."

/-- A path ends with a separator, or with a dot after one: what it names must be a directory. -/
def wantsDirectory (path : String) : Bool :=
  match path.toList.reverse with
  | '/' :: _ => true
  | '.' :: '/' :: _ => true
  | ['.'] => true
  | _ => false

/-- The reversed characters of a path without the separators and lone dots at its end. -/
def bare : List Char → List Char
  | '/' :: rest => bare rest
  | '.' :: '/' :: rest => bare rest
  | reversed => reversed

/-- The path of the directory that holds what a path names; the root and the empty path have none. -/
def parent? (path : String) : Option String :=
  -- Read backwards, the last name ends at the first separator.
  match bare path.toList.reverse with
  | [] => none
  | reversed =>
    let above := bare (reversed.dropWhile (· != '/'))
    if above.isEmpty && isAbsolute path then some "/" else some (.ofList above.reverse)

/-- A path read from a directory; an absolute path does not depend on it. -/
def join (directory path : String) : String :=
  if isAbsolute path || directory == "" then path
  else match directory.toList.reverse with
    | '/' :: _ => directory ++ path
    | _ => directory ++ "/" ++ path

/-- The absolute path of names from the root on. -/
def ofNames (names : List String) : String :=
  "/" ++ Text.joinWith "/" names

/-- The names that lead from one place to another: up to the last place they share, then down. -/
def namesBetween : List String → List String → List String
  | a :: start, b :: goal =>
    if a = b then namesBetween start goal
    else List.replicate (start.length + 1) ".." ++ b :: goal
  | start, goal => List.replicate start.length ".." ++ goal

/-- The shorter name of a path seen from a directory, relative or absolute. -/
def seenFrom (directory path : String) : String :=
  let goal := names path
  let between := namesBetween (names directory) goal
  if between.length ≤ goal.length then Text.joinWith "/" between else path

/-- The absolute paths at which a relative one may lead, from a directory and from those above it. -/
def upward (directory path : String) : List String :=
  if isAbsolute path then [path]
  else
    let steps := names directory
    (List.range (steps.length + 1)).map fun up =>
      join (ofNames (steps.take (steps.length - up))) path

end Placard.Path
