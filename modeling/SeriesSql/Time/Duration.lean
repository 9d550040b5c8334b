import SeriesSql.Number.Decimal

/-!
# Durations

A duration is a number of seconds below `2 ^ 64` and of nanoseconds below a thousand million.
Products that would not fit stop at the longest duration.
-/

namespace SeriesSql

structure Duration where
  seconds : Nat
  nanos : Nat
deriving DecidableEq, Repr

namespace Duration

def nanosPerSecond : Nat := 1000000000

/-- The number of different counts of seconds. -/
def secondsLimit : Nat := UInt64.size

def longest : Duration := ⟨secondsLimit - 1, nanosPerSecond - 1⟩

/-- So many seconds and nanoseconds, the full seconds among the nanoseconds carried over. -/
def of (seconds nanos : Nat) : Duration :=
  ⟨seconds + nanos / nanosPerSecond, nanos % nanosPerSecond⟩

def ofMillis (millis : Nat) : Duration :=
  ⟨millis / 1000, millis % 1000 * 1000000⟩

def toMillis (d : Duration) : Nat :=
  d.seconds * 1000 + d.nanos / 1000000

/-- The duration so many times, or the longest one. The nanoseconds are multiplied on their own and
carry into the seconds. -/
def saturatingMul (d : Duration) (n : Nat) : Duration :=
  let nanos := d.nanos * n
  let seconds := d.seconds * n + nanos / nanosPerSecond
  if seconds < secondsLimit then ⟨seconds, nanos % nanosPerSecond⟩ else longest

/-- A number of thousand-millionth parts, given per unit, in positional notation. -/
def inUnit (nanos places : Nat) : String :=
  Decimal.toText ⟨false, nanos, -(places : Int)⟩

/-- The text in the greatest of the units second, millisecond, microsecond and nanosecond that
fits into the duration. -/
def toText (d : Duration) : String :=
  if 0 < d.seconds then inUnit (d.seconds * nanosPerSecond + d.nanos) 9 ++ "s"
  else if 1000000 ≤ d.nanos then inUnit d.nanos 6 ++ "ms"
  else if 1000 ≤ d.nanos then inUnit d.nanos 3 ++ "µs"
  else inUnit d.nanos 0 ++ "ns"

end Duration
end SeriesSql
