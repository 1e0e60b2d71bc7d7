/-!
# ItemStore.Calendar

Instants in UTC and their text with milliseconds, `2024-01-02T03:04:05.000Z`, in the proleptic
Gregorian calendar.

Design points:

* A leap second has no number of its own: it is the second before it with a billion or more
  nanoseconds, and its text has the next second, `60` at the end of a minute. Nothing keeps it from
  standing behind another second than the last one of a minute.
* Dates come from the count of days by periods of 400 years, each of which has the same length.
  Years begin in March there, so that the leap day is the last of its year.
-/

namespace ItemStore

/-- An instant in UTC. -/
structure Instant where
  /-- Whole seconds since 1970-01-01, leap seconds not counted. -/
  seconds : Int
  /-- Nanoseconds since that second began; a billion or more are a leap second behind it. -/
  nanos : Nat
  inSecond : nanos < 2000000000
deriving DecidableEq

namespace Instant

/-- The beginning of 1970. -/
def epoch : Instant := ⟨0, 0, by decide⟩

instance : Inhabited Instant := ⟨epoch⟩

end Instant

/-- A day of the calendar. -/
structure Date where
  /-- The year; 0 is the one before 1. -/
  year : Int
  /-- The month, 1 to 12. -/
  month : Nat
  /-- The day of the month, from 1. -/
  day : Nat
deriving DecidableEq, Repr

/-- The days in 400 years. -/
def daysPerCycle : Nat := 146097

/-- The day with a number, counted from 1970-01-01. -/
def Date.ofDays (days : Int) : Date :=
  -- Day 0 of a cycle is the first of March in a year divisible by 400.
  let shifted := days + 719468
  let cycle := shifted / daysPerCycle
  let dayOfCycle := (shifted % daysPerCycle).toNat
  let yearOfCycle :=
    (dayOfCycle - dayOfCycle / 1460 + dayOfCycle / 36524 - dayOfCycle / 146096) / 365
  let dayOfYear := dayOfCycle - (365 * yearOfCycle + yearOfCycle / 4 - yearOfCycle / 100)
  let monthFromMarch := (5 * dayOfYear + 2) / 153
  let day := dayOfYear - (153 * monthFromMarch + 2) / 5 + 1
  let month := if monthFromMarch < 10 then monthFromMarch + 3 else monthFromMarch - 9
  let year := 400 * cycle + yearOfCycle + (if month ≤ 2 then 1 else 0)
  ⟨year, month, day⟩

/-- A number in decimal with at least `width` digits. -/
def paddedDigits (width n : Nat) : List Char :=
  let digits := Nat.toDigits 10 n
  List.replicate (width - digits.length) '0' ++ digits

/-- A year has four digits; one outside 0 to 9999 also a sign, and as many digits as it needs. -/
def yearText (year : Int) : List Char :=
  if year < 0 then '-' :: paddedDigits 4 year.natAbs
  else if year ≤ 9999 then paddedDigits 4 year.natAbs
  else '+' :: paddedDigits 4 year.natAbs

/-- A date as year, month and day. -/
def Date.text (date : Date) : List Char :=
  yearText date.year ++ '-' :: paddedDigits 2 date.month ++ '-' :: paddedDigits 2 date.day

namespace Instant

/-- The text of an instant. Parts of a millisecond are dropped. -/
def text (instant : Instant) : String :=
  let date := Date.ofDays (instant.seconds / 86400)
  let second := (instant.seconds % 86400).toNat
  let leap := instant.nanos / 1000000000
  let millis := instant.nanos % 1000000000 / 1000000
  String.ofList
    (date.text ++ 'T' :: paddedDigits 2 (second / 3600)
      ++ ':' :: paddedDigits 2 (second / 60 % 60)
      ++ ':' :: paddedDigits 2 (second % 60 + leap)
      ++ '.' :: paddedDigits 3 millis ++ ['Z'])

end Instant

end ItemStore
