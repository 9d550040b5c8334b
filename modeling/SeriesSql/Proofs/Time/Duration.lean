import Mathlib
import SeriesSql.Time.Duration

/-!
# Products of durations

A duration is a number of nanoseconds, held in two parts. Its product with a number is the product
of all its nanoseconds, cut off at the longest duration, although the parts are multiplied one by
one with a carry between them. When the number has 32 bits the nanoseconds never leave a word of 64
bits, so the only overflow is one of the seconds, and that is the one that cuts the product off.
-/

namespace SeriesSql.Duration

/-- A duration that is no longer than the longest one, in its canonical form. -/
structure Fits (d : Duration) : Prop where
  seconds_lt : d.seconds < secondsLimit
  nanos_lt : d.nanos < nanosPerSecond

def toNanos (d : Duration) : Nat :=
  d.seconds * nanosPerSecond + d.nanos

theorem fits_longest : longest.Fits := by
  constructor <;> decide

theorem toNanos_longest : longest.toNanos + 1 = secondsLimit * nanosPerSecond := by
  decide

theorem Fits.toNanos_le {d : Duration} (hd : d.Fits) : d.toNanos ≤ longest.toNanos := by
  have hseconds := hd.seconds_lt
  have hnanos := hd.nanos_lt
  have hlongest := toNanos_longest
  unfold toNanos nanosPerSecond at *
  omega

/-! ### The product and its carry -/

theorem toNanos_mul (d : Duration) (n : Nat) :
    d.toNanos * n = (d.seconds * n + d.nanos * n / nanosPerSecond) * nanosPerSecond +
      d.nanos * n % nanosPerSecond := by
  calc d.toNanos * n = d.seconds * n * nanosPerSecond + d.nanos * n := by
        unfold toNanos
        ring
    _ = d.seconds * n * nanosPerSecond + (d.nanos * n / nanosPerSecond * nanosPerSecond +
        d.nanos * n % nanosPerSecond) := by rw [Nat.div_add_mod']
    _ = _ := by ring

theorem fits_saturatingMul (d : Duration) (n : Nat) : (d.saturatingMul n).Fits := by
  rw [saturatingMul]
  split
  · rename_i hseconds
    exact ⟨hseconds, Nat.mod_lt _ (by decide)⟩
  · exact fits_longest

/-- A product is cut off exactly where its seconds run over. -/
theorem toNanos_saturatingMul (d : Duration) (n : Nat) :
    (d.saturatingMul n).toNanos = min (d.toNanos * n) longest.toNanos := by
  rw [toNanos_mul, saturatingMul]
  split
  · rename_i hseconds
    have hrest : d.nanos * n % nanosPerSecond < nanosPerSecond := Nat.mod_lt _ (by decide)
    exact (Nat.min_eq_left (Fits.toNanos_le ⟨hseconds, hrest⟩)).symm
  · rename_i hseconds
    have hlongest := toNanos_longest
    have hover := Nat.mul_le_mul_right nanosPerSecond (Nat.not_lt.1 hseconds)
    rw [Nat.min_eq_right]
    omega

/-! ### The product in words -/

def word? (n : Nat) : Option Nat :=
  if n < UInt64.size then some n else none

theorem word?_of_lt {n : Nat} (hn : n < UInt64.size) : word? n = some n :=
  if_pos hn

/-- The product computed in words. Nothing comes of a product of nanoseconds that does not fit. A
product of seconds, or its sum with the carry, that does not fit makes it the longest duration. -/
def mulInWords? (d : Duration) (n : Nat) : Option Duration := do
  let nanos ← word? (d.nanos * n)
  let seconds? := word? (d.seconds * n) >>= fun product => word? (product + nanos / nanosPerSecond)
  return (seconds?.map fun seconds => ⟨seconds, nanos % nanosPerSecond⟩).getD longest

theorem nanos_mul_lt {d : Duration} (hd : d.Fits) {n : Nat} (hn : n < UInt32.size) :
    d.nanos * n < UInt64.size := by
  have hproduct : d.nanos * n ≤ nanosPerSecond * UInt32.size :=
    Nat.mul_le_mul (Nat.le_of_lt hd.nanos_lt) (Nat.le_of_lt hn)
  exact Nat.lt_of_le_of_lt hproduct (by decide)

/-- Seconds that fit after the carry also fit before it, so it does not matter which of the two
overflows. -/
theorem words_bind (product carry : Nat) :
    (word? product >>= fun product => word? (product + carry)) = word? (product + carry) := by
  by_cases hproduct : product < UInt64.size
  · rw [word?_of_lt hproduct]
    rfl
  · have hsum : ¬ product + carry < UInt64.size := by omega
    rw [word?, word?, if_neg hproduct, if_neg hsum]
    rfl

/-- A factor of 32 bits never makes the nanoseconds overflow. -/
theorem mulInWords?_eq {d : Duration} (hd : d.Fits) {n : Nat} (hn : n < UInt32.size) :
    d.mulInWords? n = some (d.saturatingMul n) := by
  rw [mulInWords?, word?_of_lt (nanos_mul_lt hd hn), saturatingMul]
  simp only [Option.bind_eq_bind, Option.bind_some]
  rw [← Option.bind_eq_bind, words_bind, word?, ← secondsLimit]
  split <;> rfl

end SeriesSql.Duration
