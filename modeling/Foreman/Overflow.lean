/-!
# `Foreman.Overflow` — sums that leave their range

Three sums are not guarded by any check of a workflow or pool and stop the whole request when they do
not fit: sums of durations along a dependency chain, the total capacity of a pool, and the attempts of
all tasks of an execution.

## Contents
- **`Overflow`** with its `message`.
-/

namespace Foreman

/-- A sum that left its range. -/
inductive Overflow where
  | durations
  | capacities
  | attempts
  deriving DecidableEq

/-- How an overflow is reported. -/
def Overflow.message : Overflow → String
  | .durations => "overflow when adding durations"
  | .capacities | .attempts => "attempt to add with overflow"

end Foreman
