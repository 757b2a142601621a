import Placard.Decimal.Reading

/-! Sums in a command line: whole numbers and variables joined by signs, with parentheses. -/

namespace Placard.Shell.Arithmetic

/-- A sign or a value of a sum. -/
inductive Token
  | number (value : Nat)
  | name (letters : String)
  | sign (c : Char)
deriving DecidableEq, Repr, Inhabited

/-- Puts a character in front of tokens; letters and digits join the token that they touch. -/
private def join (c : Char) (touches : Bool) (tokens : List Token) : List Token :=
  match tokens with
  | .name letters :: others =>
    if touches then .name (.ofList (c :: letters.toList)) :: others
    else .name (.singleton c) :: tokens
  | _ => .name (.singleton c) :: tokens

/-- The tokens of a sum, with digits still as names. -/
private def split : List Char → List Token
  | [] => []
  | c :: rest =>
    if c == ' ' || c == '\t' || c == '\n' || c == '$' then split rest
    else if c.isAlphanum || c == '_' then
      let touches := rest.head?.any fun next => next.isAlphanum || next == '_'
      join c touches (split rest)
    else .sign c :: split rest

/-- The tokens of a sum. -/
def tokens (text : List Char) : List Token :=
  (split text).map fun
    | .name letters =>
      match Decimal.digits? letters.toList with
      | some value => .number value
      | none => .name letters
    | other => other

mutual

/-- Reads a value: a number, a variable, a negated value, or a sum in parentheses. -/
def value (lookup : String → Int) (fuel : Nat) (tokens : List Token) : Option (Int × List Token) :=
  match fuel with
  | 0 => none
  | fuel + 1 =>
    match tokens with
    | .number held :: rest => some (held, rest)
    | .name letters :: rest => some (lookup letters, rest)
    | .sign '-' :: rest => (value lookup fuel rest).map fun (held, after) => (-held, after)
    | .sign '+' :: rest => value lookup fuel rest
    | .sign '(' :: rest => do
      match ← sum lookup fuel rest with
      | (held, .sign ')' :: after) => some (held, after)
      | _ => none
    | _ => none

/-- Multiplies and divides from left to right; nothing is divided by zero. -/
def product (lookup : String → Int) (fuel : Nat) (left : Int) (tokens : List Token) :
    Option (Int × List Token) :=
  match fuel with
  | 0 => none
  | fuel + 1 =>
    match tokens with
    | .sign '*' :: rest => do
      let (right, after) ← value lookup fuel rest
      product lookup fuel (left * right) after
    | .sign '/' :: rest => do
      let (right, after) ← value lookup fuel rest
      if right == 0 then none else product lookup fuel (left.tdiv right) after
    | .sign '%' :: rest => do
      let (right, after) ← value lookup fuel rest
      if right == 0 then none else product lookup fuel (left.tmod right) after
    | rest => some (left, rest)

/-- Adds and subtracts from left to right. -/
def more (lookup : String → Int) (fuel : Nat) (left : Int) (tokens : List Token) :
    Option (Int × List Token) :=
  match fuel with
  | 0 => none
  | fuel + 1 =>
    match tokens with
    | .sign '+' :: rest => do
      let (first, after) ← value lookup fuel rest
      let (right, last) ← product lookup fuel first after
      more lookup fuel (left + right) last
    | .sign '-' :: rest => do
      let (first, after) ← value lookup fuel rest
      let (right, last) ← product lookup fuel first after
      more lookup fuel (left - right) last
    | rest => some (left, rest)

/-- Reads a sum. -/
def sum (lookup : String → Int) (fuel : Nat) (tokens : List Token) : Option (Int × List Token) :=
  match fuel with
  | 0 => none
  | fuel + 1 => do
    let (first, after) ← value lookup fuel tokens
    let (left, rest) ← product lookup fuel first after
    more lookup fuel left rest

end

/-- The number that a sum comes to; a text without tokens comes to zero. -/
def evaluate (lookup : String → Int) (text : String) : Option Int :=
  match tokens text.toList with
  | [] => some 0
  | held =>
    match sum lookup (4 * held.length + 4) held with
    | some (total, []) => some total
    | _ => none

end Placard.Shell.Arithmetic
