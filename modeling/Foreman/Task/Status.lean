/-!
# `Foreman.Task.Status` — the life of a task in one execution

A task starts pending, is scheduled, then runs, and ends completed, failed or cancelled. A task that
was never dispatched may be cancelled directly.

## Contents
- **`TaskStatus`** with `label`, `isTerminal` and the legal steps `canBecome`.
- **`IllegalStep`**: a step that the life cycle does not have.
-/

namespace Foreman

/-- Where a task stands in an execution. -/
inductive TaskStatus where
  | pending
  | scheduled
  | running
  | completed
  | failed
  | cancelled
  deriving DecidableEq, Inhabited

namespace TaskStatus

/-- The word that stands for the status. -/
def label : TaskStatus → String
  | pending => "pending"
  | scheduled => "scheduled"
  | running => "running"
  | completed => "completed"
  | failed => "failed"
  | cancelled => "cancelled"

/-- Whether the status is an end of the life cycle. -/
def isTerminal : TaskStatus → Bool
  | completed | failed | cancelled => true
  | _ => false

/-- Whether one status may directly follow another. -/
def canBecome : TaskStatus → TaskStatus → Bool
  | pending, scheduled => true
  | pending, cancelled => true
  | scheduled, running => true
  | running, completed => true
  | running, failed => true
  | running, cancelled => true
  | _, _ => false

end TaskStatus

/-- A step of a task that its life cycle does not have. -/
structure IllegalStep where
  task : String
  source : TaskStatus
  target : TaskStatus
  deriving DecidableEq

/-- How an illegal step is reported. -/
def IllegalStep.message (e : IllegalStep) : String :=
  "task '" ++ e.task ++ "' cannot move from " ++ e.source.label ++ " to " ++ e.target.label

end Foreman
