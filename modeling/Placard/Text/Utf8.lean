/-! Texts as bytes: the encoding of characters, and the decoding of any bytes at all. -/

namespace Placard.Text

/-- The bytes of a text. -/
def bytes (text : List Char) : List UInt8 :=
  text.flatMap String.utf8EncodeChar

/-- The number of bytes of a text. -/
def byteLength (text : List Char) : Nat :=
  text.foldl (fun total c => total + c.utf8Size) 0

/-- The character that stands for bytes that encode none. -/
def replacement : Char := '\uFFFD'

/-- A byte that continues a longer encoding carries six bits. -/
def isContinuation (low high : Nat) (byte : UInt8) : Bool :=
  low ≤ byte.toNat && byte.toNat ≤ high

/-- The scalar value made of a head and the six low bits of each continuation. -/
def assemble (head : Nat) (tail : List UInt8) : Char :=
  .ofNat (tail.foldl (fun code byte => code * 64 + byte.toNat % 64) head)

/-- What a first byte begins: a character, or a broken run, with the number of further bytes used.

The second byte of an encoding has bounds of its own, so that no overlong form, no surrogate
and no value above the last scalar is ever completed. A broken run ends before the byte that
could not continue it. -/
def scan (first : UInt8) (rest : List UInt8) : Option Char × Nat :=
  let lead := first.toNat
  -- Continuations needed after the second byte, and the bounds of the second byte.
  let longer (low high more : Nat) (head : Nat) : Option Char × Nat :=
    match rest with
    | second :: others =>
      if !isContinuation low high second then (none, 0)
      else
        let following := (others.take more).takeWhile (isContinuation 0x80 0xBF)
        if following.length == more then
          (some (assemble head (second :: following)), more + 1)
        else (none, following.length + 1)
    | [] => (none, 0)
  if lead < 0x80 then (some (.ofNat lead), 0)
  else if lead < 0xC2 then (none, 0)
  else if lead < 0xE0 then longer 0x80 0xBF 0 (lead - 0xC0)
  else if lead == 0xE0 then longer 0xA0 0xBF 1 0
  else if lead == 0xED then longer 0x80 0x9F 1 13
  else if lead < 0xF0 then longer 0x80 0xBF 1 (lead - 0xE0)
  else if lead == 0xF0 then longer 0x90 0xBF 2 0
  else if lead < 0xF4 then longer 0x80 0xBF 2 (lead - 0xF0)
  else if lead == 0xF4 then longer 0x80 0x8F 2 4
  else (none, 0)

/-- Bytes read as characters, with no character for every broken run. -/
def runs : List UInt8 → List (Option Char)
  | [] => []
  | first :: rest =>
    -- Only the bytes that belong to the run are passed over.
    let found := scan first rest
    found.1 :: runs (rest.drop found.2)
termination_by bytes => bytes.length
decreasing_by simp only [List.length_drop, List.length_cons]; omega

/-- Bytes read as a text, with one replacement for every broken run. -/
def decodeLossy (bytes : List UInt8) : List Char :=
  (runs bytes).map (·.getD replacement)

/-- Bytes read as a text, unless some run of them is broken. -/
def decode? (bytes : List UInt8) : Option (List Char) :=
  (runs bytes).mapM id

/-- The mark that some programs write before the first character of a text. -/
def byteOrderMark : List UInt8 := [0xEF, 0xBB, 0xBF]

/-- Bytes without one leading byte-order mark. -/
def withoutMark : List UInt8 → List UInt8
  | 0xEF :: 0xBB :: 0xBF :: rest => rest
  | all => all

end Placard.Text
