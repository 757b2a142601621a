/-! Bytes written with sixty-four printable characters, three bytes to four characters. -/

namespace Placard.Text.Base64

/-- The characters that stand for the numbers below sixty-four. -/
def alphabet : List Char :=
  "ABCDEFGHIJKLMNOPQRSTUVWXYZabcdefghijklmnopqrstuvwxyz0123456789+/".toList

/-- The character for the six lowest bits of a number. -/
def digit (value : Nat) : Char :=
  alphabet.getD (value % 64) 'A'

/-- Bytes in groups of three; a group that is short is filled with equals signs. -/
def encode : List UInt8 → List Char
  | [] => []
  | [a] =>
    let bits := a.toNat * 65536
    [digit (bits / 262144), digit (bits / 4096), '=', '=']
  | [a, b] =>
    let bits := a.toNat * 65536 + b.toNat * 256
    [digit (bits / 262144), digit (bits / 4096), digit (bits / 64), '=']
  | a :: b :: c :: rest =>
    let bits := a.toNat * 65536 + b.toNat * 256 + c.toNat
    digit (bits / 262144) :: digit (bits / 4096) :: digit (bits / 64) :: digit bits :: encode rest

/-- The number that a character stands for. -/
def value? (c : Char) : Option Nat :=
  alphabet.idxOf? c

/-- The bytes that characters in groups of four stand for; only the last group may be filled. -/
def decode? : List Char → Option (List UInt8)
  | [] => some []
  | [a, b, '=', '='] => do
    let bits := (← value? a) * 64 + (← value? b)
    if bits % 16 == 0 then some [.ofNat (bits / 16)] else none
  | [a, b, c, '='] => do
    let bits := ((← value? a) * 64 + (← value? b)) * 64 + (← value? c)
    if bits % 4 == 0 then some [.ofNat (bits / 1024), .ofNat (bits / 4)] else none
  | a :: b :: c :: d :: rest => do
    let bits := (((← value? a) * 64 + (← value? b)) * 64 + (← value? c)) * 64 + (← value? d)
    return .ofNat (bits / 65536) :: .ofNat (bits / 256) :: .ofNat bits :: (← decode? rest)
  | _ => none

end Placard.Text.Base64
