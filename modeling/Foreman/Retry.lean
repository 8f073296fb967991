import Foreman.Run.TaskError
import Foreman.Time.Duration

/-!
# `Foreman.Retry` — repeated attempts with growing delays

A failed attempt is repeated while its error is transient and attempts are left. The delay before the
next attempt grows by a factor and is capped.

## Contents
- **`RetryPolicy`** with `firstDelay`, `nextDelay`, `delays` and the decision after a failure.
- `delays_le`: no delay exceeds the cap.
- `over_of_giveUp`, `left_of_retryAfter`: what a decision means.
- **`RetryRun`** and `RetryPolicy.run`: a whole sequence of attempts, with the calls and the delays
  between them.
-/

namespace Foreman

/-- Delays between attempts. How many attempts there may be is not part of the policy. -/
structure RetryPolicy where
  initialDelay : Duration := .ofSecs 1
  multiplier : Binary64 := .ofNat 2
  maxDelay : Duration := .ofSecs 30
  deriving DecidableEq

/-- What follows a failed attempt. -/
inductive RetryDecision where
  | retryAfter (delay : Duration)
  | giveUp
  deriving DecidableEq

namespace RetryPolicy

/-- The delay after the first attempt. -/
def firstDelay (p : RetryPolicy) : Duration := Duration.min p.initialDelay p.maxDelay

/-- The delay that follows a delay: the product with the factor, or the cap if the product is not a
    duration, and never more than the cap. -/
def nextDelay (p : RetryPolicy) (current : Duration) : Duration :=
  Duration.min ((Duration.ofSeconds? (current.toSeconds.mul p.multiplier)).getD p.maxDelay)
    p.maxDelay

/-- The delay after attempt `n + 1`. -/
def delays (p : RetryPolicy) : Nat → Duration
  | 0 => p.firstDelay
  | n + 1 => p.nextDelay (p.delays n)

theorem firstDelay_le (p : RetryPolicy) : p.firstDelay ≤ p.maxDelay := Duration.min_le_right _ _

theorem nextDelay_le (p : RetryPolicy) (d : Duration) : p.nextDelay d ≤ p.maxDelay :=
  Duration.min_le_right _ _

theorem delays_le (p : RetryPolicy) (n : Nat) : p.delays n ≤ p.maxDelay := by
  cases n with
  | zero => exact p.firstDelay_le
  | succ n => exact p.nextDelay_le (p.delays n)

/-- What follows a failure of the given attempt, counted from one. -/
def decide (_p : RetryPolicy) (e : TaskError) (attempt maxAttempts : Nat) (delay : Duration) :
    RetryDecision :=
  if !e.isRetryable || maxAttempts ≤ attempt then .giveUp else .retryAfter delay

variable {p : RetryPolicy} {error : TaskError} {attempt most : Nat} {delay wait : Duration}

theorem over_of_giveUp (h : p.decide error attempt most delay = .giveUp) :
    error.isRetryable = false ∨ most ≤ attempt := by
  unfold decide at h
  split at h
  · next hover => simpa using hover
  · cases h

theorem left_of_retryAfter (h : p.decide error attempt most delay = .retryAfter wait) :
    error.isRetryable = true ∧ attempt < most ∧ wait = delay := by
  unfold decide at h
  split at h
  · cases h
  · next hleft =>
    cases h
    simpa using hleft

end RetryPolicy

/-- What happens in a sequence of attempts. -/
inductive RetryStep where
  /-- An attempt is made; its number is counted from one. -/
  | call (attempt : Nat)
  | sleep (delay : Duration)
  deriving DecidableEq

/-- A finished sequence of attempts. -/
structure RetryRun (α : Type) where
  /-- The result of the last attempt. -/
  result : Except TaskError α
  attempts : Nat
  /-- The calls and the delays between them, in order. -/
  steps : List RetryStep

namespace RetryPolicy

variable {α : Type}

/-- Attempts from a given number on, which goes on for as long as attempts are left. -/
def runFrom (p : RetryPolicy) (maxAttempts : Nat) (op : Nat → Except TaskError α) (attempt : Nat)
    (delay : Duration) : RetryRun α :=
  match op attempt with
  | .ok a => { result := .ok a, attempts := attempt, steps := [.call attempt] }
  | .error e =>
    match h : p.decide e attempt maxAttempts delay with
    | .retryAfter wait =>
      have : attempt < maxAttempts := (left_of_retryAfter h).2.1
      let rest := p.runFrom maxAttempts op (attempt + 1) (p.nextDelay delay)
      { rest with steps := .call attempt :: .sleep wait :: rest.steps }
    | .giveUp => { result := .error e, attempts := attempt, steps := [.call attempt] }
termination_by maxAttempts - attempt

/-- Repeats an operation until it succeeds, fails for good, or all attempts are used up. At least one
    attempt is made. -/
def run (p : RetryPolicy) (maxAttempts : Nat) (op : Nat → Except TaskError α) : RetryRun α :=
  p.runFrom (Nat.max maxAttempts 1) op 1 p.firstDelay

end RetryPolicy

namespace RetryRun

variable {α : Type}

/-- The numbers of the attempts made, in order. -/
def calls (r : RetryRun α) : List Nat :=
  r.steps.filterMap fun
    | .call attempt => some attempt
    | .sleep _ => none

/-- Times of the calls in milliseconds after the first one, if attempts take no time. -/
def callTimes (r : RetryRun α) : List Nat := go 0 r.steps
where
  go (now : Nat) : List RetryStep → List Nat
    | [] => []
    | .call _ :: steps => now :: go now steps
    | .sleep delay :: steps => go (now + delay.sleepMillis) steps

end RetryRun

end Foreman
