import SeriesSql.Time.Calendar

/-!
# Timestamps

An instant in UTC with nanosecond precision. An instant inside a leap second belongs to the second
before it and has a thousand million nanoseconds or more.
-/

namespace SeriesSql

/-- An instant: the seconds since 1 January 1970 and the nanoseconds since that second. -/
structure Timestamp where
  seconds : Int
  nanos : Nat
deriving DecidableEq, Repr

namespace Timestamp

def secondsPerDay : Int := 86400

def nanosPerSecond : Nat := 1000000000

def minSeconds : Int := (Date.toDays ⟨Date.minYear, 1, 1⟩) * secondsPerDay

def maxSeconds : Int := (Date.toDays ⟨Date.maxYear, 12, 31⟩) * secondsPerDay + (secondsPerDay - 1)

/-- An instant in a year in range. -/
def ofSeconds? (seconds : Int) (nanos : Nat) : Option Timestamp :=
  if minSeconds ≤ seconds ∧ seconds ≤ maxSeconds then some ⟨seconds, nanos⟩ else none

/-- The instant a number of ticks after 1 January 1970, with so many ticks to the second. -/
def ofTicks? (perSecond : Nat) (ticks : Int) : Option Timestamp :=
  ofSeconds? (ticks / perSecond) ((ticks % perSecond).toNat * (nanosPerSecond / perSecond))

/-- The instant of a time of day on a date, where second 60 is the leap second. -/
def ofDateTime (date : Date) (hour minute second fraction : Nat) : Timestamp :=
  let leap := if second = 60 then 1 else 0
  { seconds := date.toDays * secondsPerDay + (hour * 3600 + minute * 60 + (second - leap) : Nat)
    nanos := fraction + leap * nanosPerSecond }

def date (t : Timestamp) : Date :=
  Date.ofDays (t.seconds / secondsPerDay)

def secondOfDay (t : Timestamp) : Nat :=
  (t.seconds % secondsPerDay).toNat

def hour (t : Timestamp) : Nat :=
  t.secondOfDay / 3600

def minute (t : Timestamp) : Nat :=
  t.secondOfDay / 60 % 60

/-- The second of an instant, 60 in a leap second. -/
def second (t : Timestamp) : Nat :=
  t.secondOfDay % 60 + t.nanos / nanosPerSecond

/-- The nanoseconds of an instant since its second began, in a leap second too. -/
def fraction (t : Timestamp) : Nat :=
  t.nanos % nanosPerSecond

end Timestamp
end SeriesSql
