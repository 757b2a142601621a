import Placard.Web.Domain

/-! Web addresses: their parts, and the text in which a request names them. -/

namespace Placard.Web

/-- The schemes that name a host and a path in the form of the web. -/
inductive Scheme
  | web (port : Nat)
  | file
  | other
deriving DecidableEq, Repr, Inhabited

/-- The form of addresses with a scheme of a given name, and its usual port. -/
def Scheme.ofName : String → Scheme
  | "http" => web 80
  | "ws" => web 80
  | "https" => web 443
  | "wss" => web 443
  | "ftp" => web 21
  | "file" => file
  | _ => other

/-- A web address; user names and passwords are not kept. -/
structure Url where
  scheme : String
  host : Option Host
  port : Option Nat
  path : String
deriving DecidableEq, Repr, Inhabited

/-- The text of an address. -/
def Url.text (url : Url) : String :=
  let authority := match url.host with
    | some host =>
      "//" ++ host.text ++ (match url.port with | some port => ":" ++ toString port | none => "")
    | none => ""
  url.scheme ++ ":" ++ authority ++ url.path

/-- The characters that begin the path, the query or the fragment. -/
private def endsAuthority (scheme : Scheme) (c : Char) : Bool :=
  c == '/' || c == '?' || c == '#' || (scheme != .other && c == '\\')

/-- The scheme before the first colon, in small letters, and what follows the colon. -/
def splitScheme (text : List Char) : Option (String × List Char) :=
  let isPart (c : Char) := c.isAlphanum || c == '+' || c == '-' || c == '.'
  let name := text.takeWhile isPart
  match text.drop name.length with
  | ':' :: rest =>
    if (name.head?.map Char.isAlpha).getD false then some (.ofList (name.map Char.toLower), rest)
    else none
  | _ => none

/-- What follows the last at sign of an authority; without a user before it a host must follow. -/
private def dropUser (scheme : Scheme) (text : List Char) : Except UrlFault (Bool × List Char) :=
  let authority := text.takeWhile (!endsAuthority scheme ·)
  let rest := text.drop authority.length
  let host := (authority.reverse.takeWhile (· != '@')).reverse
  if host.length == authority.length then .ok (false, text)
  else
    let user := authority.take (authority.length - host.length - 1)
    if user.isEmpty && host.isEmpty && !rest.isEmpty then .error .emptyHost
    else .ok (!user.isEmpty && user != [':'], host ++ rest)

/-- The characters of a host, up to the port or the path; a colon between brackets is part of it. -/
private def takeHost (scheme : Scheme) (bracketed : Bool) : List Char → List Char × List Char
  | [] => ([], [])
  | c :: rest =>
    if (c == ':' && !bracketed) || endsAuthority scheme c then ([], c :: rest)
    else
      let inside := if c == '[' then true else if c == ']' then false else bracketed
      let (host, after) := takeHost scheme inside rest
      (c :: host, after)

/-- The number of a port, which has to end where the path begins. -/
private def readPort (text : List Char) : Except UrlFault (Option Nat × List Char) := do
  let digits := text.takeWhile Char.isDigit
  let rest := text.drop digits.length
  let port := Decimal.natural 0 digits
  if 65535 < port then throw .badPort
  match rest with
  | [] => pure ()
  | c :: _ => if !(c == '/' || c == '\\' || c == '?' || c == '#') then throw .badPort
  return (if digits.isEmpty then none else some port, rest)

/-- A step of a path that stays where it is. -/
private def staysHere (segment : List Char) : Bool :=
  let plain := segment.map Char.toLower
  plain == ".".toList || plain == "%2e".toList

/-- A step of a path that leads back. -/
private def leadsBack (segment : List Char) : Bool :=
  ["..", ".%2e", "%2e.", "%2e%2e"].any fun form => segment.map Char.toLower == form.toList

/-- Follows the steps of a path from the root; the last one leads to a directory or to a file. -/
private def walk (passed : List (List Char)) : List (List Char) → List (List Char)
  | [] => passed
  | [last] =>
    if leadsBack last then passed.dropLast ++ [[]]
    else if staysHere last then passed ++ [[]]
    else passed ++ [last]
  | step :: others =>
    if leadsBack step then walk passed.dropLast others
    else if staysHere step then walk passed others
    else walk (passed ++ [step]) others

/-- A character that is written as bytes in a fragment. -/
private def escapesFragment (c : Char) : Bool :=
  c.toNat < 0x20 || c.toNat == 0x7F || " \"<>`".toList.contains c

/-- A character that is written as bytes in a path. -/
private def escapesPath (c : Char) : Bool :=
  escapesFragment c || "?\x7b\x7d".toList.contains c

/-- A character that is written as bytes in a query. -/
private def escapesQuery (c : Char) : Bool :=
  c.toNat < 0x20 || c.toNat == 0x7F || " \"<>'".toList.contains c

/-- The path, the query and the fragment of an address of the web. -/
private def pathText (text : List Char) : String :=
  let path := text.takeWhile fun c => c != '?' && c != '#'
  let afterPath := text.drop path.length
  let (query, fragment) := match afterPath with
    | '?' :: rest =>
      let query := rest.takeWhile (· != '#')
      ('?' :: percentEncoded escapesQuery query, rest.drop query.length)
    | rest => ([], rest)
  let tail := match fragment with
    | '#' :: rest => '#' :: percentEncoded escapesFragment rest
    | _ => []
  let isSlash (c : Char) := c == '/' || c == '\\'
  let relative := match path with
    | c :: rest => if isSlash c then rest else path
    | [] => []
  let steps := walk [] (Text.pieces isSlash (percentEncoded escapesPath relative))
  .ofList ('/' :: (Text.joinWith "/" (steps.map .ofList)).toList ++ query ++ tail)

/-- The parts of an address from its authority on. -/
private def parseAuthority (name : String) (scheme : Scheme) (text : List Char) :
    Except UrlFault Url := do
  let (hasUser, afterUser) ← dropUser scheme text
  let (letters, afterHost) := takeHost scheme false afterUser
  let host ← match scheme with
    | .other => Host.parseOpaque letters
    | _ => if letters.isEmpty then throw .emptyHost else Host.parse letters
  if host == .name "" && (afterHost.head? == some ':' || hasUser) then throw .emptyHost
  let (port, rest) ← match afterHost with
    | ':' :: digits => readPort digits
    | rest => pure (none, rest)
  let shown := if scheme == .web (port.getD 0) then none else port
  return ⟨name, some host, shown, pathText rest⟩

/-- The host of the address of a file; a letter with a colon is a part of its path. -/
private def checkFileHost (text : List Char) : Except UrlFault Unit := do
  match text with
  | a :: b :: rest =>
    if (a == '/' || a == '\\') && (b == '/' || b == '\\') then
      let host := rest.takeWhile (!endsAuthority .file ·)
      let isDrive := match host with
        | [letter, mark] => letter.isAlpha && (mark == ':' || mark == '|')
        | _ => false
      if !host.isEmpty && !isDrive then discard (Host.parse host)
  | _ => pure ()

/-- The address that a text names. -/
def Url.parse (text : String) : Except UrlFault Url := do
  -- Controls and blanks at the ends do not count, nor do tabs and line ends anywhere.
  let isEdge (c : Char) := c.toNat ≤ 0x20
  let cut := ((text.toList.dropWhile isEdge).reverse.dropWhile isEdge).reverse
  let letters := cut.filter fun c => c != '\t' && c != '\n' && c != '\r'
  match splitScheme letters with
  | none => throw .noScheme
  | some (name, rest) =>
    match Scheme.ofName name with
    | .web port =>
      parseAuthority name (.web port) (rest.dropWhile fun c => c == '/' || c == '\\')
    | .file =>
      checkFileHost rest
      return ⟨name, none, none, .ofList rest⟩
    | .other =>
      match rest with
      | '/' :: '/' :: authority => parseAuthority name .other authority
      | path => return ⟨name, none, none, .ofList path⟩

end Placard.Web
