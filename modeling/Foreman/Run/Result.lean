import Foreman.Collection.Sum
import Foreman.Overflow
import Foreman.Run.TaskError
import Foreman.Workflow

/-!
# `Foreman.Run.Result` — what an execution leaves behind

## Contents
- **`TaskResult`**: how one task ended.
- **`Metrics`** with `successRate`, collected by `Metrics.collect`.
- **`RunResult`**: how the whole workflow ended, and `RunResult.checked`: whether its numbers fit.
-/

namespace Foreman

/-- How one task ended. -/
structure TaskResult where
  task : TaskId
  outcome : TaskOutcome
  output : Option Value
  error : Option String
  duration : Duration
  /-- Attempts that were made; zero if the runner was never called. -/
  attempts : Nat
  agent : Option AgentId
  deriving Inhabited

/-- Whether the task succeeded. -/
def TaskResult.isSuccess (r : TaskResult) : Bool := decide (r.outcome = .success)

/-- How a workflow ended. -/
inductive RunStatus where
  | completed
  | failed
  deriving DecidableEq, Inhabited

/-- The word that stands for the end of a workflow. -/
def RunStatus.label : RunStatus → String
  | completed => "completed"
  | failed => "failed"

/-- An execution in numbers. -/
structure Metrics where
  total : Nat
  completed : Nat
  failed : Nat
  cancelled : Nat
  /-- Tasks that were never dispatched. -/
  pending : Nat
  attempts : Nat
  levelsExecuted : Nat
  elapsed : Duration
  deriving DecidableEq, Inhabited

/-- The fraction of tasks that completed; all of them if there are none. -/
def Metrics.successRate (m : Metrics) : Binary64 :=
  if m.total = 0 then .ofNat 1 else (Binary64.ofNat m.completed).div (Binary64.ofNat m.total)

/-- How a workflow ended. -/
structure RunResult where
  workflow : String
  /-- Whether no task failed. -/
  success : Bool
  status : RunStatus
  tasks : NameMap TaskResult
  /-- In level order. -/
  failedTasks : List TaskId
  /-- In level order. -/
  cancelledTasks : List TaskId
  statuses : NameMap TaskStatus
  metrics : Metrics

/-- An execution in numbers, from the final statuses and results. The attempts of all tasks are summed up
    in 32 bits; whether that sum is exact, `RunResult.checked` tells. -/
def Metrics.collect (statuses : NameMap TaskStatus) (results : NameMap TaskResult)
    (levelsExecuted : Nat) (elapsed : Duration) : Metrics :=
  let count (s : TaskStatus) := statuses.values.countP fun t => t = s
  { total := statuses.size
    completed := count .completed
    failed := count .failed
    cancelled := count .cancelled
    pending := count .pending
    attempts := sumOf TaskResult.attempts results.values % 2 ^ 32
    levelsExecuted
    elapsed }

/-- A result as it is returned where sums are checked. If the attempts of all tasks together do not fit
    in 32 bits, there is none: the execution is over, but ends in a panic. -/
def RunResult.checked (r : RunResult) : Except Overflow RunResult :=
  if sumOf TaskResult.attempts r.tasks.values < 2 ^ 32 then .ok r else .error .attempts

end Foreman
