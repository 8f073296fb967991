import Foreman.Task
import Foreman.Text.Quoted

/-!
# `Foreman.Schedule.Error` — why a workflow cannot be scheduled

## Contents
- **`SchedulingError`** with its `message`.
-/

namespace Foreman

/-- The word for a truth value in messages. -/
def boolWord (b : Bool) : String := if b then "true" else "false"

/-- Why a workflow cannot be scheduled. -/
inductive SchedulingError where
  /-- No registered agent covers the task and has spare capacity. -/
  | noSuitableAgent (task : TaskId) (required : List Capability) (accelerator : Bool)
  /-- A planned agent is no longer registered. -/
  | agentNotFound (task : TaskId) (agent : AgentId)
  /-- The listed tasks wait, directly or not, for a cycle. -/
  | cycleDetected (remaining : List TaskId)
  deriving DecidableEq

/-- How a scheduling error is reported. -/
def SchedulingError.message : SchedulingError → String
  | .noSuitableAgent task required accelerator =>
    "no suitable agent for task '" ++ task ++ "' (capabilities " ++ quotedList required ++
      ", accelerator: " ++ boolWord accelerator ++ ")"
  | .agentNotFound task agent =>
    "agent '" ++ agent ++ "' planned for task '" ++ task ++ "' is not registered"
  | .cycleDetected remaining =>
    "dependency cycle left " ++ toString remaining.length ++ " task(s) unscheduled: " ++
      ", ".intercalate remaining

end Foreman
