/-!
# `Foreman.Run.TaskError` — why one attempt of a task fails

The cause decides whether another attempt is worth it: only transport and availability problems are
transient.

## Contents
- **`TaskOutcome`** and **`TaskError`** with `message`, `isRetryable` and `outcome`.
-/

namespace Foreman

/-- How a task ended. -/
inductive TaskOutcome where
  | success
  /-- The work itself failed. -/
  | failure
  /-- The task could not be run properly. -/
  | error
  deriving DecidableEq, Inhabited

/-- The word that stands for an outcome. -/
def TaskOutcome.label : TaskOutcome → String
  | success => "success"
  | failure => "failure"
  | error => "error"

/-- Why one attempt failed. -/
inductive TaskError where
  | network (text : String)
  | timeout (text : String)
  | serviceUnavailable (text : String)
  | invalidInput (text : String)
  | agentFailure (text : String)
  | system (text : String)
  | noSuitableAgent (text : String)
  deriving DecidableEq

namespace TaskError

/-- How a failed attempt is reported. -/
def message : TaskError → String
  | network text => "network error: " ++ text
  | timeout text => "timed out: " ++ text
  | serviceUnavailable text => "service unavailable: " ++ text
  | invalidInput text => "invalid input: " ++ text
  | agentFailure text => "agent failure: " ++ text
  | system text => "system error: " ++ text
  | noSuitableAgent text => "no suitable agent: " ++ text

/-- Whether another attempt may succeed. -/
def isRetryable : TaskError → Bool
  | network _ | timeout _ | serviceUnavailable _ => true
  | _ => false

/-- How a task that ends with the error is reported. -/
def outcome : TaskError → TaskOutcome
  | system _ | noSuitableAgent _ => .error
  | _ => .failure

end TaskError

end Foreman
