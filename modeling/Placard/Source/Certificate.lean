import Placard.Text.Base64
import Placard.Text.Blank
import Placard.Text.Split
import Placard.Text.Utf8

/-! Certificates in a file: blocks of armoured lines, each of which holds one nested value. -/

namespace Placard.Certificate

/-- The lines of a block and the lines behind it; a block that is not closed has no end. -/
private def takeBlock (closing : List Char) : List (List Char) → Option (List Char × List (List Char))
  | [] => none
  | line :: others =>
    if line == closing then some ([], others)
    else do
      let (body, after) ← takeBlock closing others
      return (line ++ body, after)

/-- The label of a line that opens a block. -/
private def label? (line : List Char) : Option (List Char) := do
  let rest ← Text.dropPrefix? "-----BEGIN ".toList line
  let reversed ← Text.dropPrefix? "-----".toList rest.reverse
  return reversed.reverse

/-- The labels and the bytes of all blocks; lines outside a block do not count.

The fuel bounds the number of lines. -/
private def readBlocks (fuel : Nat) (lines : List (List Char)) :
    Option (List (List Char × List UInt8)) :=
  match fuel, lines with
  | fuel + 1, line :: others =>
    match label? line with
    | none => readBlocks fuel others
    | some label => do
      let (body, after) ← takeBlock ("-----END ".toList ++ label ++ "-----".toList) others
      let bytes ← Text.Base64.decode? body
      return (label, bytes) :: (← readBlocks fuel after)
  | _, _ => some []

/-- The length of a nested value, and the bytes behind it. -/
private def readLength : List UInt8 → Option (Nat × List UInt8)
  | [] => none
  | size :: rest =>
    if size < 0x80 then some (size.toNat, rest)
    else
      let count := size.toNat - 0x80
      if count == 0 || 4 < count || rest.length < count then none
      else some ((rest.take count).foldl (fun total byte => total * 256 + byte.toNat) 0,
        rest.drop count)

/-- The content of a value of a given kind, and the bytes behind the value. -/
private def readValue (kind : UInt8) : List UInt8 → Option (List UInt8 × List UInt8)
  | [] => none
  | first :: rest => do
    let (length, body) ← readLength rest
    if first == kind && length ≤ body.length then some (body.take length, body.drop length) else none

/-- Bytes have the outer form of a certificate: what is signed, the way of signing, the signature. -/
def isCertificate (bytes : List UInt8) : Bool :=
  let parts : Option (List UInt8 × List UInt8 × List UInt8) := do
    let (content, after) ← readValue 0x30 bytes
    let (signed, afterSigned) ← readValue 0x30 content
    let (_, afterWay) ← readValue 0x30 afterSigned
    let (_, rest) ← readValue 0x03 afterWay
    return (signed, rest, after)
  match parts with
  | some (signed, [], []) => !signed.isEmpty
  | _ => false

/-- A file of certificates can be used when its blocks are whole and hold what they say. -/
def usable (content : List UInt8) : Bool :=
  let lines := (Text.pieces (· == '\n') (Text.decodeLossy content)).map Text.cutBlanks
  match readBlocks (lines.length + 1) lines with
  | none => false
  | some blocks =>
    (blocks.filter (·.1 == "CERTIFICATE".toList)).all fun block => isCertificate block.2

end Placard.Certificate
