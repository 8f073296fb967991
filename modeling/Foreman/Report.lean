import Foreman.Number.Decimal
import Foreman.Run.Result
import Foreman.Schedule

/-!
# `Foreman.Report` — plans and results as text

## Contents
- `Report.plan`: levels, agents and the critical path of a schedule.
- `Report.flaws`: what is wrong with a workflow.
- `Report.summary`: how an execution ended.
-/

namespace Foreman.Report

/-- Lines, each with a line break. -/
def unlines (lines : List String) : String := String.join (lines.map (· ++ "\n"))

/-- The word for the mode of a workflow. -/
def modeWord : ExecutionMode → String
  | .parallel => "Parallel"
  | .sequential => "Sequential"

/-- The line of one task: its agent, and a mark if it is critical. -/
def taskLine (s : Schedule) (t : TaskId) : String :=
  "      " ++ t ++ " -> " ++ (s.allocation.find? t).getD "-" ++
    if s.criticalPath.tasks.contains t then " *" else ""

/-- The lines of one level. -/
def levelLines (s : Schedule) (l : Level) : List String :=
  ("  [" ++ toString l.index ++ "] " ++ if l.parallel then "parallel" else "sequential") ::
    l.tasks.map (taskLine s)

/-- A schedule as text. -/
def plan (w : Workflow) (s : Schedule) : String :=
  unlines <|
    ["agentdag dry-run: " ++ w.name ++ " (" ++ w.id ++ ")",
      "  execution_mode = " ++ modeWord w.metadata.mode ++ ", max_retries = " ++
        toString w.metadata.maxAttempts ++ ", timeout = " ++ toString w.metadata.timeout.secs ++ "s",
      "",
      "levels (" ++ toString s.levels.length ++ "):"] ++
    s.levels.flatMap (levelLines s) ++
    ["",
      "critical path (" ++ toString s.criticalPath.duration.secs ++ "s): " ++
        " -> ".intercalate s.criticalPath.tasks]

/-- The errors of a workflow as text. -/
def flaws (w : Workflow) (errors : List ValidationError) : String :=
  unlines (("workflow '" ++ w.id ++ "' is invalid:") :: errors.map fun e => "  - " ++ e.message)

/-- The percentage of tasks that completed, without places. -/
def percentage (m : Metrics) : String := (m.successRate.mul (.ofNat 100)).fixed 0

/-- The line of one failed task. -/
def failureLine (r : RunResult) (t : TaskId) : String :=
  "  failed: " ++ t ++ ": " ++ ((r.tasks.find? t).bind TaskResult.error).getD "unknown error"

/-- The result of an execution as text, with the given text for the seconds that it took. -/
def summary (r : RunResult) (seconds : String) : String :=
  let m := r.metrics
  unlines <|
    ["workflow " ++ r.workflow ++ ": " ++ r.status.label,
      "  completed " ++ toString m.completed ++ "/" ++ toString m.total ++ " (" ++ percentage m ++
        "%), failed " ++ toString m.failed ++ ", cancelled " ++ toString m.cancelled ++
        ", pending " ++ toString m.pending,
      "  " ++ toString m.attempts ++ " attempt(s) over " ++ toString m.levelsExecuted ++
        " level(s) in " ++ seconds ++ "s"] ++
    r.failedTasks.map (failureLine r)

/-- The seconds that an execution took, with one place. -/
def seconds (r : RunResult) : String := (r.metrics.elapsed.toSeconds).fixed 1

end Foreman.Report
