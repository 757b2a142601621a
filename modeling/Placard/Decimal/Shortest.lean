/-! The fewest decimal digits that read back as a given binary floating-point number. -/

namespace Placard.Decimal

/-- A magnitude `significand * 2 ^ exponent`, as a binary floating-point number stores it. -/
structure Binary where
  significand : Nat
  exponent : Int
deriving DecidableEq, Repr, Inhabited

/-- A magnitude `digits * 10 ^ exponent`. -/
structure Digits where
  digits : Nat
  exponent : Int
deriving DecidableEq, Repr, Inhabited

/-- A number times a power of two or ten, as a fraction of natural numbers. -/
def fraction (value base : Nat) : Int → Nat × Nat
  | .ofNat up => (value * base.pow up, 1)
  | .negSucc down => (value, base.pow (down + 1))

/-- Whether one decimal magnitude is at most, or below, a binary one. -/
def Digits.le (left : Digits) (right : Binary) (strict : Bool) : Bool :=
  let (leftUp, leftDown) := fraction left.digits 10 left.exponent
  let (rightUp, rightDown) := fraction right.significand 2 right.exponent
  if strict then leftUp * rightDown < rightUp * leftDown else leftUp * rightDown ≤ rightUp * leftDown

/-- Whether one decimal magnitude is at least, or above, a binary one. -/
def Digits.ge (left : Digits) (right : Binary) (strict : Bool) : Bool :=
  let (leftUp, leftDown) := fraction left.digits 10 left.exponent
  let (rightUp, rightDown) := fraction right.significand 2 right.exponent
  if strict then rightUp * leftDown < leftUp * rightDown else rightUp * leftDown ≤ leftUp * rightDown

/-- The reals that round to one floating-point number: two ends, which belong to it together or not. -/
structure Interval where
  low : Binary
  high : Binary
  closed : Bool
deriving Repr

/-- A decimal magnitude lies among the reals that round to a number. -/
def Interval.holds (interval : Interval) (decimal : Digits) : Bool :=
  decimal.ge interval.low (!interval.closed) && decimal.le interval.high (!interval.closed)

/-- The reals nearer to a number than to its neighbours; below a power of two they lie twice as dense. -/
def Binary.interval (value : Binary) : Interval :=
  let narrow := value.significand == 0x10_0000_0000_0000 && -1074 < value.exponent
  { low := if narrow then ⟨4 * value.significand - 1, value.exponent - 2⟩
           else ⟨2 * value.significand - 1, value.exponent - 1⟩
    high := ⟨2 * value.significand + 1, value.exponent - 1⟩
    closed := value.significand % 2 == 0 }

/-- The number of decimal digits before the point, or minus the number of zeros after it. -/
def Binary.pointPlace (value : Binary) : Int :=
  let (up, down) := fraction value.significand 2 value.exponent
  if down ≤ up then (Nat.toDigits 10 (up / down)).length
  else
    -- The reciprocal has one digit more than there are zeros, unless it is a power of ten.
    let width := (Nat.toDigits 10 (down / up)).length
    if up * Nat.pow 10 (width - 1) == down then 2 - (width : Int) else 1 - (width : Int)

/-- The whole number of grid steps below a value, on the grid of a power of ten. -/
def Binary.steps (value : Binary) (grid : Int) : Nat :=
  let (up, down) := fraction value.significand 2 value.exponent
  let (scaleUp, scaleDown) := fraction 1 10 grid
  up * scaleDown / (down * scaleUp)

/-- Whether a value lies beyond the middle between a number of grid steps and the next, or on it. -/
private def Binary.pastMiddle (value : Binary) (grid : Int) (steps : Nat) : Ordering :=
  let (up, down) := fraction value.significand 2 value.exponent
  let (scaleUp, scaleDown) := fraction 1 10 grid
  compare (2 * (up * scaleDown)) ((2 * steps + 1) * (down * scaleUp))

/-- The digits of a given count that read back as a value, if there are any. -/
def Binary.onGrid? (value : Binary) (count : Nat) : Option Digits :=
  let grid := value.pointPlace - count
  let below := value.steps grid
  let low : Digits := ⟨below, grid⟩
  let high : Digits := ⟨below + 1, grid⟩
  -- Of two neighbours that both read back the nearer one counts, and the even one on a tie.
  match value.interval.holds low, value.interval.holds high with
  | true, true =>
    match value.pastMiddle grid below with
    | .lt => some low
    | .gt => some high
    | .eq => if below % 2 == 0 then some low else some high
  | true, false => some low
  | false, true => some high
  | false, false => none

/-- Digits without the zeros at their end; the fuel bounds how many are taken away. -/
def Digits.strip (decimal : Digits) : Nat → Digits
  | 0 => decimal
  | fuel + 1 =>
    if decimal.digits % 10 == 0 && decimal.digits != 0 then
      Digits.strip ⟨decimal.digits / 10, decimal.exponent + 1⟩ fuel
    else decimal

/-- The fewest digits that read back as a positive value. -/
def Binary.shortest (value : Binary) : Digits :=
  -- Seventeen digits always suffice, so one of the counts is answered.
  match ((List.range 17).map (· + 1)).findSome? value.onGrid? with
  | some decimal => decimal.strip 20
  | none => ⟨value.steps 0, 0⟩

/-- The magnitude of a finite floating-point number. -/
def magnitude (value : Float) : Binary :=
  let bits := value.toBits.toNat
  let biased := bits / 0x10_0000_0000_0000 % 0x800
  let field := bits % 0x10_0000_0000_0000
  -- The lowest exponent field marks the numbers without the implied leading bit.
  if biased == 0 then { significand := field, exponent := -1074 }
  else { significand := field + 0x10_0000_0000_0000, exponent := Int.ofNat biased - 1075 }

/-- A floating-point number carries a minus sign, zero and undefined numbers included. -/
def isNegative (value : Float) : Bool :=
  0x8000_0000_0000_0000 ≤ value.toBits.toNat

end Placard.Decimal
