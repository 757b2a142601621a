import Placard.Pattern.Basic
import Placard.Pattern.Syntax
import Placard.Unicode.Fold
import Placard.Unicode.Script

/-! The meaning of written patterns, under the switches that are set where each part stands. -/

namespace Placard.Pattern

/-- The switches that are set. -/
structure Flags where
  ignoreCase : Bool
  manyLines : Bool
  dotAll : Bool
  swapGreed : Bool
  unicode : Bool
  crlf : Bool
deriving DecidableEq, Repr, Inhabited

/-- The switches at the start: lines count, and characters are those of Unicode. -/
def Flags.start : Flags := ⟨false, true, false, false, true, false⟩

/-- Switches after one of them is turned. -/
def Flags.turn (flags : Flags) : Flag × Bool → Flags
  | (.ignoreCase, value) => { flags with ignoreCase := value }
  | (.manyLines, value) => { flags with manyLines := value }
  | (.dotAll, value) => { flags with dotAll := value }
  | (.swapGreed, value) => { flags with swapGreed := value }
  | (.unicode, value) => { flags with unicode := value }
  | (.crlf, value) => { flags with crlf := value }
  | (.spaced, _) => flags

/-- Switches after a change. -/
def Flags.apply (flags : Flags) (change : FlagChange) : Flags :=
  change.foldl turn flags

/-- A fault at a part of the pattern. -/
private def faultAt {α : Type} (cause : Cause) (span : Span) : Except Fault α :=
  .error ⟨cause, span, none⟩

/-! ### Named classes -/

/-- Ranges between characters. -/
private def rangesOf (ranges : List (Char × Char)) : CharSet :=
  .ofRanges (ranges.map fun (low, high) => (low.toNat, high.toNat))

/-- The ASCII characters of a class between colons. -/
def posixSet : String → CharSet
  | "alnum" => rangesOf [('0', '9'), ('A', 'Z'), ('a', 'z')]
  | "alpha" => rangesOf [('A', 'Z'), ('a', 'z')]
  | "ascii" => rangesOf [('\x00', '\x7f')]
  | "blank" => rangesOf [('\t', '\t'), (' ', ' ')]
  | "cntrl" => rangesOf [('\x00', '\x1f'), ('\x7f', '\x7f')]
  | "digit" => rangesOf [('0', '9')]
  | "graph" => rangesOf [('!', '~')]
  | "lower" => rangesOf [('a', 'z')]
  | "print" => rangesOf [(' ', '~')]
  | "punct" => rangesOf [('!', '/'), (':', '@'), ('[', '`'), ('\x7b', '~')]
  | "space" => rangesOf [('\t', '\r'), (' ', ' ')]
  | "upper" => rangesOf [('A', 'Z')]
  | "word" => asciiWordLetters
  | "xdigit" => rangesOf [('0', '9'), ('A', 'F'), ('a', 'f')]
  | _ => .empty

/-- The characters of a class with a letter of its own. -/
private def shortSet (unicode : Bool) : ShortClass → CharSet
  | .digit => if unicode then Unicode.joined ["nd"] else posixSet "digit"
  | .space => if unicode then (Unicode.property? "whitespace").getD .empty else posixSet "space"
  | .word => if unicode then wordLetters else posixSet "word"

/-- The name of a property without what does not count in it. -/
private def plainName (name : String) : String :=
  let letters := name.toList
  let (cut, rest) := match letters with
    | 'i' :: 's' :: rest => (true, rest)
    | 'I' :: 's' :: rest => (true, rest)
    | 'i' :: 'S' :: rest => (true, rest)
    | 'I' :: 'S' :: rest => (true, rest)
    | all => (false, all)
  let kept := (rest.filter fun c => c.toNat < 0x80 && c != ' ' && c != '_' && c != '-').map Char.toLower
  -- One short name begins with letters that are otherwise left out.
  if cut && kept == ['c'] then "isc" else .ofList kept

/-- The characters of a property that is named without a value. -/
private def binarySet (name : String) : Except Cause CharSet :=
  let plain := plainName name
  let special := plain == "cf" || plain == "sc" || plain == "lc"
  let property := if special then none else Unicode.property? plain
  match property.orElse fun _ => (Unicode.generalCategory? plain).orElse fun _ => Unicode.script? plain with
  | some set => .ok set
  | none => .error .propertyUnknown

/-- The properties whose values name sets of characters that are not kept here. -/
private def otherProperties : List String :=
  ["gcb", "graphemeclusterbreak", "sb", "sentencebreak", "wb", "wordbreak", "bc", "bidiclass",
    "blk", "block", "ccc", "canonicalcombiningclass", "dt", "decompositiontype", "ea",
    "eastasianwidth", "hst", "hangulsyllabletype", "jt", "joiningtype", "jg", "joininggroup", "lb",
    "linebreak", "nt", "numerictype", "nv", "numericvalue", "na", "name", "vo",
    "verticalorientation", "insc", "indicsyllabiccategory", "inpc", "indicpositionalcategory"]

/-- The characters for which a property has a value. -/
private def valueSet (name value : String) : Except Cause CharSet :=
  let wanted (set : Option CharSet) : Except Cause CharSet :=
    match set with
    | some set => .ok set
    | none => .error .propertyValueUnknown
  let property := plainName name
  let plain := plainName value
  match property with
  | "gc" => wanted (Unicode.generalCategory? plain)
  | "generalcategory" => wanted (Unicode.generalCategory? plain)
  | "sc" => wanted (Unicode.script? plain)
  | "script" => wanted (Unicode.script? plain)
  | "scx" => wanted (Unicode.scriptExtension? plain)
  | "scriptextensions" => wanted (Unicode.scriptExtension? plain)
  | "age" => wanted (Unicode.age? plain)
  | _ =>
    if otherProperties.contains property || (Unicode.property? property).isSome then
      .error .propertyValueUnknown
    else .error .propertyUnknown

/-- A set with the letters of other case where case does not count, and turned over if asked for. -/
private def adjusted (flags : Flags) (negated : Bool) (set : CharSet) : CharSet :=
  let folded :=
    if !flags.ignoreCase then set
    else if flags.unicode then Unicode.closeUnderCase set
    else
      let letters := posixSet "alpha"
      set.union (.ofRanges ((set.inter letters).ranges.map fun (low, high) =>
        if low < 'a'.toNat then (low + 32, high + 32) else (low - 32, high - 32)))
  if negated then folded.complement else folded

/-- A set of bytes has to be one of ASCII characters, since other bytes are no characters alone. -/
private def wantAscii (flags : Flags) (negated : Bool) (span : Span) (set : CharSet) :
    Except Fault CharSet :=
  if flags.unicode || !negated then .ok set else faultAt .notUtf8 span

/-- The characters of a named class. -/
private def namedSet (flags : Flags) (span : Span) (name : NamedClass) (negated : Bool) :
    Except Fault CharSet :=
  match name with
  | .short kind =>
    let set := shortSet flags.unicode kind
    wantAscii flags negated span (if negated then set.complement else set)
  | .posix name => wantAscii flags negated span (adjusted flags negated (posixSet name))
  | .property name value =>
    if !flags.unicode then faultAt .noUnicode span
    else
      let found := match value with
        | none => binarySet name
        | some value => valueSet name value
      match found with
      | .ok set => .ok (adjusted flags negated set)
      | .error cause => faultAt cause span

/-! ### Bracketed classes -/

/-- The code point of a character between brackets. -/
private def classCode (flags : Flags) (letter : Letter) : Except Fault Nat :=
  if flags.unicode || letter.char.toNat < 0x80 then .ok letter.char.toNat
  else faultAt (if letter.isByte then .notUtf8 else .noUnicode) letter.span

/-- The set that an operator makes of two. -/
private def combined : ClassOperation → CharSet → CharSet → CharSet
  | .intersection => .inter
  | .difference => .diff
  | .symmetricDifference => .symmDiff

mutual

/-- The characters of a class between brackets. -/
def ClassTree.set (flags : Flags) : ClassTree → Except Fault CharSet
  | .nothing _ => .ok .empty
  | .letter letter => (classCode flags letter).map .single
  | .range _ low high => do return .ofRanges [(← classCode flags low, ← classCode flags high)]
  | .named span name negated => namedSet flags span name negated
  | .bracket span negated inner => do
    wantAscii flags negated span (adjusted flags negated (← inner.set flags))
  | .union _ items => unionSet flags items
  | .combine _ operation left right => do
    let first ← left.set flags
    let second ← right.set flags
    return combined operation (adjusted flags false first) (adjusted flags false second)

/-- The characters of several classes. -/
def unionSet (flags : Flags) : List ClassTree → Except Fault CharSet
  | [] => .ok .empty
  | item :: others => do
    let first ← item.set flags
    return first.union (← unionSet flags others)

end

/-! ### Patterns -/

/-- The condition that an assertion makes under switches. -/
private def lookOf (flags : Flags) : AssertionKind → Look
  | .lineStart => if !flags.manyLines then .textStart else if flags.crlf then .lineStartCrlf else .lineStart
  | .lineEnd => if !flags.manyLines then .textEnd else if flags.crlf then .lineEndCrlf else .lineEnd
  | .textStart => .textStart
  | .textEnd => .textEnd
  | .boundary => .boundary flags.unicode
  | .noBoundary => .noBoundary flags.unicode
  | .wordStart => .wordStart flags.unicode
  | .wordEnd => .wordEnd flags.unicode
  | .wordStartHalf => .wordStartHalf flags.unicode
  | .wordEndHalf => .wordEndHalf flags.unicode

/-- The characters that the dot stands for. -/
private def dotSet (flags : Flags) : CharSet :=
  if flags.dotAll then .all
  else if flags.crlf then (CharSet.ofRanges [(10, 10), (13, 13)]).complement
  else (CharSet.single 10).complement

/-- The characters that a letter stands for. -/
private def letterSet (flags : Flags) (letter : Letter) : Except Fault CharSet :=
  if !flags.unicode && letter.isByte && 0x80 ≤ letter.char.toNat then faultAt .notUtf8 letter.span
  else .ok (adjusted flags false (.single letter.char.toNat))

mutual

/-- The meaning of a part of a pattern, and the switches for the parts behind it. -/
def Written.meaning (flags : Flags) : Written → Except Fault (Pattern × Flags)
  | .nothing _ => .ok (.nothing, flags)
  | .change _ change => .ok (.nothing, flags.apply change)
  | .letter letter => do return (.one (← letterSet flags letter), flags)
  | .dot span => if flags.unicode then .ok (.one (dotSet flags), flags) else faultAt .notUtf8 span
  | .assertion _ kind => .ok (.look (lookOf flags kind), flags)
  | .named span name negated => do return (.one (← namedSet flags span name negated), flags)
  | .bracket span negated inner => do
    return (.one (← (ClassTree.bracket span negated inner).set flags), flags)
  | .repeated _ low high greedy inner => do
    let (pattern, after) ← inner.meaning flags
    return (times low high (greedy != flags.swapGreed) pattern, after)
  | .capture _ index inner => do
    let (pattern, _) ← inner.meaning flags
    return (.group index pattern, flags)
  | .flagged _ change inner => do
    let (pattern, _) ← inner.meaning (flags.apply change)
    return (pattern, flags)
  | .either _ branches => do
    let (patterns, after) ← meanings flags branches
    return (ofBranches patterns, after)
  | .sequence _ items => do
    let (patterns, after) ← meanings flags items
    return (ofSequence patterns, after)

/-- The meanings of parts one after another, each under the switches that those before it leave. -/
def meanings (flags : Flags) : List Written → Except Fault (List Pattern × Flags)
  | [] => .ok ([], flags)
  | item :: others => do
    let (pattern, after) ← item.meaning flags
    let (patterns, final) ← meanings after others
    return (pattern :: patterns, final)

end

end Placard.Pattern
