/-! Facts about the machine, and the tokens that stand for them in a template. -/

namespace Placard

/-- Facts about the machine that every template may name. -/
structure Facts where
  hostname : String
  user : String
  ip : String
  os : String
  cores : String
deriving DecidableEq, Repr, Inhabited

/-- What stands for a fact that cannot be found out. -/
def unknownFact : String := "N/A"

/-- The tokens of the facts in order. -/
def factTokens : List String :=
  ["\x7bhostname\x7d", "\x7buser\x7d", "\x7bip\x7d", "\x7bos\x7d", "\x7bcores\x7d"]

namespace Facts

/-- The values of the facts in the order of their tokens. -/
def values (facts : Facts) : List String :=
  [facts.hostname, facts.user, facts.ip, facts.os, facts.cores]

/-- Each token with the fact that it stands for. -/
def table (facts : Facts) : List (String × String) :=
  factTokens.zip facts.values

/-- The facts of which only the user is looked up, among the variables of the surroundings. -/
def ofVariables (environment : List (String × String)) : Facts :=
  { hostname := unknownFact
    user := ((environment.lookup "USER").orElse fun _ => environment.lookup "USERNAME").getD unknownFact
    ip := unknownFact
    os := unknownFact
    cores := unknownFact }

end Facts

end Placard
