import Foreman.Retry
import Mathlib.Order.Bounds.Defs

/-!
# `Foreman.Proofs.Attempting` — which attempts are made, and when

An operation is attempted until an attempt settles it: it succeeds, fails for good, or is the last one
that the budget allows. So the results of the attempts fix a run up to the first one that settles, and
the policy fixes the sleeps between them (`RetryPolicy.course`).

## Contents
- **`RetryPolicy.Settles`**: an attempt after which there is no other.
- **`RetryPolicy.course`**: the calls and sleeps from one attempt to another.
- `runFrom_of_settles`, `runFrom_of_not_settles`: what one attempt leads to.
- `runFrom_eq`: a run from any attempt on.
- **`RetryPolicy.run_follows_results`**.
-/

namespace Foreman
namespace RetryPolicy

variable {α : Type} {p : RetryPolicy} {most first n attempt : Nat} {op : Nat → Except TaskError α}

/-- **An attempt settles an operation**: it succeeds, fails with an error that no other attempt mends, or
    is the last one allowed. -/
def Settles (most : Nat) (op : Nat → Except TaskError α) (attempt : Nat) : Prop :=
  (∃ a, op attempt = .ok a) ∨ (∃ e, op attempt = .error e ∧ e.isRetryable = false) ∨ attempt = most

/-! ## Courses -/

/-- How long the sleep after an attempt lasts, counted from one. -/
def delayAfter (p : RetryPolicy) (attempt : Nat) : Duration := p.delays (attempt - 1)

/-- The calls and sleeps from one attempt to another. -/
def course (p : RetryPolicy) (first n : Nat) : List RetryStep :=
  ((List.range' first (n - first)).flatMap fun i => [.call i, .sleep (p.delayAfter i)]) ++ [.call n]

theorem course_self (p : RetryPolicy) (n : Nat) : p.course n n = [.call n] := by
  simp [course]

theorem course_of_lt (h : first < n) :
    p.course first n = .call first :: .sleep (p.delayAfter first) :: p.course (first + 1) n := by
  have hlength : n - first = n - (first + 1) + 1 := by omega
  rw [course, hlength, List.range'_succ]
  rfl

/-! ## One attempt -/

/-- A run ends with the attempt that settles the operation. -/
theorem runFrom_of_settles (h : Settles most op attempt) (delay : Duration) :
    p.runFrom most op attempt delay =
      { result := op attempt, attempts := attempt, steps := [.call attempt] } := by
  unfold runFrom
  split
  · next a ha => rw [ha]
  · next e he =>
    split
    · next wait hdecide =>
      -- there would be another attempt only for an error that it may mend, within the budget
      obtain ⟨hretry, hleft, -⟩ := left_of_retryAfter hdecide
      rcases h with ⟨a, ha⟩ | ⟨e', he', hlasting⟩ | hlast
      · rw [he] at ha
        cases ha
      · rw [he] at he'
        cases he'
        rw [hretry] at hlasting
        cases hlasting
      · exact absurd hlast (Nat.ne_of_lt hleft)
    · rw [he]

/-- Any other attempt is followed by one sleep and the attempts from the next one on. -/
theorem runFrom_of_not_settles (h : ¬ Settles most op attempt) (hwithin : attempt ≤ most)
    (delay : Duration) :
    p.runFrom most op attempt delay =
      let rest := p.runFrom most op (attempt + 1) (p.nextDelay delay)
      { rest with steps := .call attempt :: .sleep delay :: rest.steps } := by
  obtain ⟨hfailed, hopen⟩ := not_or.mp h
  obtain ⟨htransient, hlast⟩ := not_or.mp hopen
  rw [runFrom]
  split
  · next a ha => exact absurd ⟨a, ha⟩ hfailed
  · next e he =>
    split
    · next wait hdecide =>
      obtain ⟨-, -, rfl⟩ := left_of_retryAfter hdecide
      rfl
    · next hdecide =>
      rcases over_of_giveUp hdecide with hlasting | hover
      · exact absurd ⟨e, he, hlasting⟩ htransient
      · exact absurd (Nat.le_antisymm hwithin hover) hlast

/-! ## A whole run -/

/-- **A run from any attempt on** goes up to the first attempt that settles the operation, and no
    further. The recursion is that of the run itself: on the attempts that are left. -/
theorem runFrom_eq (p : RetryPolicy) (op : Nat → Except TaskError α) (k : Nat) (hk : k + 1 ≤ most) :
    ∃ n, IsLeast {i | k + 1 ≤ i ∧ Settles most op i} n ∧
      p.runFrom most op (k + 1) (p.delays k) =
        { result := op n, attempts := n, steps := p.course (k + 1) n } := by
  by_cases hsettles : Settles most op (k + 1)
  · refine ⟨k + 1, ⟨⟨Nat.le_refl _, hsettles⟩, fun i hi => hi.1⟩, ?_⟩
    rw [course_self]
    exact runFrom_of_settles hsettles _
  · -- the last attempt that is allowed would settle the operation
    have hleft : k + 1 + 1 ≤ most :=
      Nat.lt_of_le_of_ne hk fun hlast => hsettles (Or.inr (Or.inr hlast))
    obtain ⟨n, ⟨⟨hn, hend⟩, hleast⟩, hrest⟩ := runFrom_eq p op (k + 1) hleft
    refine ⟨n, ⟨⟨Nat.le_of_succ_le hn, hend⟩, fun i hi => ?_⟩, ?_⟩
    · obtain heq | hlt := Nat.eq_or_lt_of_le hi.1
      · exact absurd (heq ▸ hi.2) hsettles
      · exact hleast ⟨hlt, hi.2⟩
    · have hnext : p.runFrom most op (k + 1 + 1) (p.nextDelay (p.delays k)) =
          { result := op n, attempts := n, steps := p.course (k + 1 + 1) n } := hrest
      rw [runFrom_of_not_settles hsettles hk, hnext, course_of_lt hn]
      rfl
termination_by most - k

/-- **A run of attempts follows their results.** Whatever the policy, the budget and the results, there
    is a first attempt `n` that succeeds, fails for good, or is the last one allowed, of which there is
    at least one. The run makes the attempts from 1 to `n`, each once and in this order, with one sleep
    between any two of them, and returns the result of attempt `n`. The first sleep lasts for the
    initial delay, or for the cap if that is less, and each other one for what the policy makes of the
    one before; none is longer than the cap, whatever the factor is. -/
theorem run_follows_results (p : RetryPolicy) (maxAttempts : Nat) (op : Nat → Except TaskError α) :
    ∃ (n : Nat) (wait : Nat → Duration),
      IsLeast {i | 1 ≤ i ∧ ((∃ a, op i = .ok a) ∨ (∃ e, op i = .error e ∧ e.isRetryable = false) ∨
        i = max 1 maxAttempts)} n ∧
      (p.run maxAttempts op).result = op n ∧ (p.run maxAttempts op).attempts = n ∧
      (p.run maxAttempts op).steps =
        ((List.range' 1 (n - 1)).flatMap fun i => [.call i, .sleep (wait i)]) ++ [.call n] ∧
      wait 1 = Duration.min p.initialDelay p.maxDelay ∧
      (∀ i ≥ 1, wait (i + 1) = p.nextDelay (wait i)) ∧ ∀ i, wait i ≤ p.maxDelay := by
  have hbudget : Nat.max maxAttempts 1 = max 1 maxAttempts := Nat.max_comm _ _
  obtain ⟨n, hleast, hrun⟩ := p.runFrom_eq op 0 (Nat.le_max_left 1 maxAttempts)
  replace hrun : p.run maxAttempts op = { result := op n, attempts := n, steps := p.course 1 n } := by
    rw [run, hbudget]
    exact hrun
  rw [hrun]
  refine ⟨n, p.delayAfter, hleast, rfl, rfl, rfl, rfl, fun i hi => ?_, fun i => p.delays_le _⟩
  obtain ⟨k, rfl⟩ := Nat.exists_eq_add_of_le' hi
  rfl

end RetryPolicy
end Foreman
