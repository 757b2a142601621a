import Placard.Duration

/-! Times since the epoch as dates and times of day. -/

namespace Placard

/-- A date of the calendar in use since 1582, carried back before it. -/
structure Date where
  year : Nat
  month : Nat
  day : Nat
deriving DecidableEq, Repr, Inhabited

/-- The date of a day that is counted from the first of January 1970.

Years are counted from March on, so that a leap day ends its year. -/
def Date.ofDays (days : Nat) : Date :=
  -- Four hundred years have the same number of days wherever they start.
  let shifted := days + 719468
  let era := shifted / 146097
  let dayOfEra := shifted % 146097
  let yearOfEra := (dayOfEra - dayOfEra / 1460 + dayOfEra / 36524 - dayOfEra / 146096) / 365
  let dayOfYear := dayOfEra - (365 * yearOfEra + yearOfEra / 4 - yearOfEra / 100)
  let monthFromMarch := (5 * dayOfYear + 2) / 153
  let day := dayOfYear - (153 * monthFromMarch + 2) / 5 + 1
  let month := if monthFromMarch < 10 then monthFromMarch + 3 else monthFromMarch - 9
  ⟨yearOfEra + era * 400 + (if month ≤ 2 then 1 else 0), month, day⟩

/-- A number with zeros before it up to a count of digits. -/
private def zeroPadded (count value : Nat) : String :=
  let digits := Nat.toDigits 10 value
  .ofList (List.replicate (count - digits.length) '0' ++ digits)

/-- A date as year, month and day. -/
def Date.text (date : Date) : String :=
  zeroPadded 4 date.year ++ "-" ++ zeroPadded 2 date.month ++ "-" ++ zeroPadded 2 date.day

namespace Duration

/-- The date that is reached after a span of time since the epoch. -/
def date (since : Duration) : Date := .ofDays (since.seconds / 86400)

/-- The time of day that is reached after a span of time since the epoch. -/
def timeOfDay (since : Duration) : String :=
  let second := since.seconds % 86400
  zeroPadded 2 (second / 3600) ++ ":" ++ zeroPadded 2 (second / 60 % 60) ++ ":" ++
    zeroPadded 2 (second % 60)

/-- The part of a second, in thousandths, millionths or billionths, whichever is enough. -/
def fractionOfSecond (since : Duration) : String :=
  let rest := since.nanoseconds % 1_000_000_000
  if rest == 0 then ""
  else if rest % 1_000_000 == 0 then "." ++ zeroPadded 3 (rest / 1_000_000)
  else if rest % 1000 == 0 then "." ++ zeroPadded 6 (rest / 1000)
  else "." ++ zeroPadded 9 rest

/-- A time for the eye. -/
def stamp (since : Duration) : String :=
  since.date.text ++ " " ++ since.timeOfDay ++ " UTC"

/-- A time in one word for programs. -/
def zulu (since : Duration) : String :=
  since.date.text ++ "T" ++ since.timeOfDay ++ since.fractionOfSecond ++ "Z"

end Duration

end Placard
