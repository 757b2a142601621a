import Placard.Decimal.Reading

/-! Spans of time: how they are counted, written and read. -/

namespace Placard

/-- A span of time in whole nanoseconds. -/
structure Duration where
  nanoseconds : Nat
deriving DecidableEq, Repr, Inhabited

namespace Duration

/-- Whole seconds as a span of time. -/
def ofSeconds (seconds : Nat) : Duration := ⟨seconds * 1_000_000_000⟩

/-- The whole seconds of a span of time. -/
def seconds (duration : Duration) : Nat := duration.nanoseconds / 1_000_000_000

/-- A fraction in decimal without the zeros at its end, and without a point where it is zero. -/
private def fractionText (fraction width : Nat) : String :=
  let digits := Nat.toDigits 10 fraction
  let padded := List.replicate (width - digits.length) '0' ++ digits
  let kept := (padded.reverse.dropWhile (· == '0')).reverse
  if kept.isEmpty then "" else "." ++ .ofList kept

/-- A span of time in the largest unit that it fills at least once. -/
def text (duration : Duration) : String :=
  let within (digits : Nat) (unit : String) :=
    toString (duration.nanoseconds / Nat.pow 10 digits) ++
      fractionText (duration.nanoseconds % Nat.pow 10 digits) digits ++ unit
  if 1_000_000_000 ≤ duration.nanoseconds then within 9 "s"
  else if 1_000_000 ≤ duration.nanoseconds then within 6 "ms"
  else if 1000 ≤ duration.nanoseconds then within 3 "µs"
  else within 0 "ns"

/-- The longer of two spans of time. -/
def longest (left right : Duration) : Duration :=
  if left.nanoseconds ≤ right.nanoseconds then right else left

end Duration

end Placard
