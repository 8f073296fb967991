import Foreman.Number.Binary64

/-!
# `Foreman.Time.Duration` — spans of time

A duration is a whole number of nanoseconds, at most `2 ^ 64 - 1` seconds and `999999999`
nanoseconds. Sums can leave this range: `add?` reports it, `satAdd` stops at the greatest duration,
and `satSub` stops at zero.

## Contents
- **`Duration`** with its order, `add?`, `satAdd`, `satSub`.
- **Units**: `ofSecs`, `ofMillis`, `secs`, `subsecNanos`, `ceilMillis`, and `sleepMillis`.
- **Seconds as a number**: `toSeconds`, and `ofSeconds?` with rounding to the nearest nanosecond.
-/

namespace Foreman

/-- Nanoseconds in one second. -/
def nanosPerSec : Nat := 1000000000

/-- Nanoseconds of the greatest duration. -/
def maxNanos : Nat := 2 ^ 64 * nanosPerSec - 1

/-- A span of time in whole nanoseconds. -/
structure Duration where
  nanos : Nat
  le_max : nanos ≤ maxNanos
  deriving DecidableEq

namespace Duration

/-- No time at all. -/
def zero : Duration := ⟨0, Nat.zero_le _⟩

/-- The greatest duration. -/
def max : Duration := ⟨maxNanos, Nat.le_refl _⟩

instance : Inhabited Duration := ⟨zero⟩

theorem ext_nanos {a b : Duration} (h : a.nanos = b.nanos) : a = b := by
  cases a; cases b; cases h; rfl

instance : LE Duration := ⟨fun a b => a.nanos ≤ b.nanos⟩

instance : LT Duration := ⟨fun a b => a.nanos < b.nanos⟩

instance (a b : Duration) : Decidable (a ≤ b) := inferInstanceAs (Decidable (a.nanos ≤ b.nanos))

instance (a b : Duration) : Decidable (a < b) := inferInstanceAs (Decidable (a.nanos < b.nanos))

theorem le_def {a b : Duration} : a ≤ b ↔ a.nanos ≤ b.nanos := Iff.rfl

theorem lt_def {a b : Duration} : a < b ↔ a.nanos < b.nanos := Iff.rfl

/-- The smaller of two durations. -/
protected def min (a b : Duration) : Duration := if a ≤ b then a else b

/-- The larger of two durations. -/
protected def maxOf (a b : Duration) : Duration := if a ≤ b then b else a

theorem min_le_right (a b : Duration) : Duration.min a b ≤ b := by
  unfold Duration.min; split
  · assumption
  · exact Nat.le_refl _

theorem min_le_left (a b : Duration) : Duration.min a b ≤ a := by
  unfold Duration.min; split
  · exact Nat.le_refl _
  · next h => exact Nat.le_of_lt (Nat.lt_of_not_le h)

/-- A number of nanoseconds, if it is in range. -/
def ofNanos? (n : Nat) : Option Duration := if h : n ≤ maxNanos then some ⟨n, h⟩ else none

theorem ofNanos?_nanos (d : Duration) : ofNanos? d.nanos = some d := by
  unfold ofNanos?
  rw [dif_pos d.le_max]

/-- A number of nanoseconds, or the greatest duration if that is out of range. -/
def clamp (n : Nat) : Duration := ⟨Nat.min n maxNanos, Nat.min_le_right _ _⟩

/-- The exact sum, if it is in range. -/
def add? (a b : Duration) : Option Duration := ofNanos? (a.nanos + b.nanos)

/-- The sum, stopping at the greatest duration. -/
def satAdd (a b : Duration) : Duration := clamp (a.nanos + b.nanos)

/-- The difference, stopping at zero. -/
def satSub (a b : Duration) : Duration :=
  ⟨a.nanos - b.nanos, Nat.le_trans (Nat.sub_le _ _) a.le_max⟩

@[simp] theorem nanos_satAdd (a b : Duration) :
    (a.satAdd b).nanos = Nat.min (a.nanos + b.nanos) maxNanos := rfl

@[simp] theorem nanos_satSub (a b : Duration) : (a.satSub b).nanos = a.nanos - b.nanos := rfl

theorem add?_eq_some_iff {a b c : Duration} :
    a.add? b = some c ↔ c.nanos = a.nanos + b.nanos := by
  unfold add? ofNanos?
  split
  · simp only [Option.some.injEq]
    exact ⟨fun h => h ▸ rfl, fun h => ext_nanos h.symm⟩
  · next h =>
    simp only [reduceCtorEq, false_iff]
    intro e
    exact h (e ▸ c.le_max)

theorem add?_eq_none_iff {a b : Duration} : a.add? b = none ↔ maxNanos < a.nanos + b.nanos := by
  unfold add? ofNanos?
  split
  · next h => simp only [reduceCtorEq, false_iff]; omega
  · next h => simp only [true_iff]; omega

/-! ## Units -/

/-- Whole seconds. -/
def ofSecs (n : Nat) : Duration := clamp (n * nanosPerSec)

/-- Whole milliseconds. -/
def ofMillis (n : Nat) : Duration := clamp (n * 1000000)

/-- The whole seconds of a duration. -/
def secs (d : Duration) : Nat := d.nanos / nanosPerSec

/-- The nanoseconds beyond the whole seconds. -/
def subsecNanos (d : Duration) : Nat := d.nanos % nanosPerSec

/-- Milliseconds, a started one counting as whole. -/
def ceilMillis (d : Duration) : Nat := (d.nanos + 999999) / 1000000

/-- The longest sleep in milliseconds: thirty years of 365 days. -/
def longestSleep : Nat := 30 * 365 * 86400 * 1000

/-- How many milliseconds a sleep of this duration lasts: up to the first whole millisecond that is
    not before its end, and never more than the longest sleep. -/
def sleepMillis (d : Duration) : Nat := Nat.min d.ceilMillis longestSleep

/-! ## Seconds as a number -/

/-- Seconds as a floating-point number: the whole seconds and the fraction are converted each on
    their own and then added. -/
def toSeconds (d : Duration) : Binary64 :=
  (Binary64.ofNat d.secs).add
    ((Binary64.ofNat d.subsecNanos).div (Binary64.ofNat nanosPerSec))

/-- The duration nearest to a number of seconds, ties to the even nanosecond. Negative numbers,
    infinities, NaNs and numbers out of range have none. -/
def ofSeconds? (x : Binary64) : Option Duration :=
  match x.reading with
  | .nan => none
  | .infinite _ => none
  | .finite negative m e =>
    if m = 0 then some zero
    else if negative then none
    else if 64 < e then none
    else if 0 ≤ e then ofNanos? (m * 2 ^ e.toNat * nanosPerSec)
    else ofNanos? (roundQuotient (m * nanosPerSec) (2 ^ (-e).toNat))

end Duration

end Foreman
